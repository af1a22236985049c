import Mathlib
import Triage.Proofs.TrackerCalls

/-!
# Outcomes of gathered operations

Operations that are gathered are all performed, also those after a failure. The whole comes to a result
when each of them did, and otherwise to the first failure among their outcomes.
-/

namespace Triage.Op

variable {ε α β : Type} {t : Tracker} {h h' : Host}

lemma exists_eq_error {x : Except ε α} (hx : x.toOption = none) : ∃ e, x = .error e := by
  cases x with
  | error e => exact ⟨e, rfl⟩
  | ok a => cases hx

lemma each_attempt_ok {f : α → Op ε β} {R : α → β → Prop} {as : List α}
    (hf : ∀ a ∈ as, ∀ h, ∃ b h', f a t h = (.ok b, h') ∧ R a b) (h : Host) :
    ∃ bs h', Step.each (fun a => (f a).attempt) as t h = (bs.map .ok, h') ∧ List.Forall₂ R as bs := by
  induction as generalizing h with
  | nil => exact ⟨[], h, rfl, .nil⟩
  | cons a as ih =>
    obtain ⟨b, h₁, hfirst, hab⟩ := hf a List.mem_cons_self h
    obtain ⟨bs, h₂, hrest, habs⟩ := ih (fun a' ha' => hf a' (List.mem_cons_of_mem a ha')) h₁
    exact ⟨b :: bs, h₂, each_attempt_cons hfirst hrest, .cons hab habs⟩

lemma each_attempt_error {f : α → Op ε β} {a : α} {as : List α} (ha : a ∈ as)
    (hf : ∀ h, ∃ e h', f a t h = (.error e, h')) (h : Host) :
    ∃ e, .error e ∈ (Step.each (fun a => (f a).attempt) as t h).1 := by
  induction as generalizing h with
  | nil => exact absurd ha List.not_mem_nil
  | cons a' as ih =>
    rcases hfirst : f a' t h with ⟨outcome, h₁⟩
    rcases hrest : Step.each (fun a => (f a).attempt) as t h₁ with ⟨outcomes, h₂⟩
    rw [each_attempt_cons hfirst hrest]
    rcases List.mem_cons.mp ha with rfl | ha
    · obtain ⟨e, h', he⟩ := hf h
      obtain rfl : outcome = .error e := congrArg Prod.fst (hfirst.symm.trans he)
      exact ⟨e, List.mem_cons_self⟩
    · obtain ⟨e, he⟩ := ih ha h₁
      rw [hrest] at he
      exact ⟨e, List.mem_cons_of_mem _ he⟩

lemma allOrFirst_map_ok (as : List α) : allOrFirst (as.map (.ok : α → Except ε α)) = .ok as := by
  induction as with
  | nil => rfl
  | cons a as ih =>
    rw [List.map_cons, allOrFirst, ih]
    rfl

lemma allOrFirst_eq_ok {outcomes : List (Except ε α)} {as : List α}
    (hall : allOrFirst outcomes = .ok as) : outcomes = as.map .ok := by
  induction outcomes generalizing as with
  | nil =>
    cases hall
    rfl
  | cons outcome outcomes ih =>
    cases outcome with
    | error e => cases hall
    | ok a =>
      rw [allOrFirst] at hall
      cases hrest : allOrFirst outcomes with
      | error e =>
        rw [hrest] at hall
        cases hall
      | ok bs =>
        rw [hrest] at hall
        cases hall
        rw [List.map_cons, ih hrest]

lemma mem_of_allOrFirst_eq_error {outcomes : List (Except ε α)} {e : ε}
    (hall : allOrFirst outcomes = .error e) : .error e ∈ outcomes := by
  induction outcomes with
  | nil => cases hall
  | cons outcome outcomes ih =>
    cases outcome with
    | error e' =>
      cases hall
      exact List.mem_cons_self
    | ok a =>
      rw [allOrFirst] at hall
      cases hrest : allOrFirst outcomes with
      | error e' =>
        rw [hrest] at hall
        cases hall
        exact List.mem_cons_of_mem _ (ih hrest)
      | ok bs =>
        rw [hrest] at hall
        cases hall

lemma allOrFirst_error {outcomes : List (Except ε α)} {e : ε} (he : .error e ∈ outcomes) :
    ∃ e', allOrFirst outcomes = .error e' := by
  cases hall : allOrFirst outcomes with
  | error e' => exact ⟨e', rfl⟩
  | ok as =>
    rw [allOrFirst_eq_ok hall] at he
    obtain ⟨a, -, ha⟩ := List.mem_map.mp he
    cases ha

/-- All operations came to a result of some kind. -/
lemma exists_allOrFirst_iff {P : α → Prop} {outcomes : List (Except ε α)} :
    (∃ as, allOrFirst outcomes = .ok as ∧ ∀ a ∈ as, P a) ↔
      ∀ outcome ∈ outcomes, ∃ a, outcome = .ok a ∧ P a := by
  constructor
  · rintro ⟨as, hall, hP⟩ outcome houtcome
    rw [allOrFirst_eq_ok hall] at houtcome
    obtain ⟨a, ha, rfl⟩ := List.mem_map.mp houtcome
    exact ⟨a, rfl, hP a ha⟩
  · intro hok
    cases hall : allOrFirst outcomes with
    | error e =>
      obtain ⟨a, ha, -⟩ := hok _ (mem_of_allOrFirst_eq_error hall)
      cases ha
    | ok as =>
      refine ⟨as, rfl, fun a ha => ?_⟩
      have hmem : .ok a ∈ outcomes := by
        rw [allOrFirst_eq_ok hall]
        exact List.mem_map_of_mem ha
      obtain ⟨a', heq, hP⟩ := hok _ hmem
      cases heq
      exact hP

lemma gather_ok {f : α → Op ε β} {R : α → β → Prop} {as : List α}
    (hf : ∀ a ∈ as, ∀ h, ∃ b h', f a t h = (.ok b, h') ∧ R a b) (h : Host) :
    ∃ bs h', gather f as t h = (.ok bs, h') ∧ List.Forall₂ R as bs := by
  obtain ⟨bs, h', heach, hbs⟩ := each_attempt_ok hf h
  refine ⟨bs, h', ?_, hbs⟩
  have hstep : (ofStep (Step.each (fun a => (f a).attempt) as) : Op ε _) t h =
      (.ok (bs.map .ok), h') := by
    rw [ofStep, heach]
  refine (bind_ok hstep _).trans ?_
  rw [ofExcept, allOrFirst_map_ok]

lemma gather_error {f : α → Op ε β} {a : α} {as : List α} (ha : a ∈ as)
    (hf : ∀ h, ∃ e h', f a t h = (.error e, h')) (h : Host) :
    ∃ e, (gather f as t h).1 = .error e := by
  obtain ⟨e, he⟩ := each_attempt_error ha hf h
  obtain ⟨e', he'⟩ := allOrFirst_error he
  exact ⟨e', he'⟩

lemma each_of_gather {f : α → Op ε β} {as : List α} {bs : List β}
    (hgather : gather f as t h = (.ok bs, h')) :
    Step.each (fun a => (f a).attempt) as t h = (bs.map .ok, h') := by
  obtain ⟨outcomes, h₁, hsteps, hall⟩ := bind_eq_ok.mp hgather
  rw [ofExcept_eq_ok] at hall
  cases hsteps
  rw [← allOrFirst_eq_ok hall.1, hall.2]

/-- What each of the operations came to, when all of them came to a result. The invariant is what every
operation keeps of the host. -/
lemma gather_forall {f : α → Op ε β} {I : Host → Prop} {R : α → β → Prop} {as : List α} {bs : List β}
    (hf : ∀ a b h h', I h → f a t h = (.ok b, h') → I h' ∧ R a b) (hstart : I h)
    (hgather : gather f as t h = (.ok bs, h')) : I h' ∧ List.Forall₂ R as bs := by
  have heach := each_of_gather hgather
  clear hgather
  induction as generalizing bs h with
  | nil =>
    have hnil : (([], h) : List (Except ε β) × Host) = (bs.map .ok, h') := heach
    rw [Prod.mk.injEq, eq_comm, List.map_eq_nil_iff] at hnil
    rw [hnil.1, ← hnil.2]
    exact ⟨hstart, .nil⟩
  | cons a as ih =>
    rcases hfirst : f a t h with ⟨outcome, h₁⟩
    rcases hrest : Step.each (fun a => (f a).attempt) as t h₁ with ⟨outcomes, h₂⟩
    rw [each_attempt_cons hfirst hrest, Prod.mk.injEq] at heach
    cases bs with
    | nil => exact absurd heach.1 (List.cons_ne_nil _ _)
    | cons b bs =>
      rw [List.map_cons, List.cons.injEq] at heach
      rw [heach.1.1] at hfirst
      rw [heach.1.2, heach.2] at hrest
      have hhead := hf a b h h₁ hstart hfirst
      have htail := ih hhead.1 hrest
      exact ⟨htail.1, .cons hhead.2 htail.2⟩

end Triage.Op
