import Mathlib
import Triage.Rule.Block

/-!
# Complaints about durations

Which checks can complain about a duration beyond all bounds: the checks of several fields together
complain about it when one of them does, and most checks of a single value never do.
-/

namespace Triage

namespace Checked

variable {α β : Type}

/-- Whether one of the complaints is about a duration beyond all bounds. -/
def Exceeds (c : Checked α) : Prop := ∃ f ∈ c.faults, f.complaint.excess?.isSome = true

@[simp] lemma exceeds_ok (a : α) : ¬(ok a).Exceeds := by
  rintro ⟨f, hf, -⟩
  exact absurd hf List.not_mem_nil

@[simp] lemma exceeds_pure (a : α) : ¬(pure a : Checked α).Exceeds := exceeds_ok a

@[simp] lemma exceeds_fail (c : Complaint) :
    (fail c : Checked α).Exceeds ↔ c.excess?.isSome = true := by
  simp [Exceeds, fail, faults]

@[simp] lemma exceeds_map (f : α → β) (c : Checked α) : (c.map f).Exceeds ↔ c.Exceeds := by
  cases c with
  | ok a => exact iff_of_false (exceeds_ok _) (exceeds_ok _)
  | faulty fs => rfl

lemma faults_seq (f : Checked (α → β)) (x : Checked α) :
    (f <*> x).faults = f.faults ++ x.faults := by
  cases f with
  | ok g => cases x <;> rfl
  | faulty fs =>
    cases x with
    | ok a => exact (List.append_nil fs).symm
    | faulty gs => rfl

@[simp] lemma exceeds_seq (f : Checked (α → β)) (x : Checked α) :
    (f <*> x).Exceeds ↔ f.Exceeds ∨ x.Exceeds := by
  simp only [Exceeds, faults_seq, List.mem_append, or_and_right, exists_or]

@[simp] lemma exceeds_ap (f : Checked (α → β)) (x : Checked α) :
    (ap f x).Exceeds ↔ f.Exceeds ∨ x.Exceeds := exceeds_seq f x

@[simp] lemma exceeds_under (place : String) (c : Checked α) :
    (c.under place).Exceeds ↔ c.Exceeds := by
  cases c with
  | ok a => rfl
  | faulty fs => simp [Exceeds, under, faults]

lemma exceeds_bind (x : Checked α) (f : α → Checked β) :
    (x.bind f).Exceeds ↔ x.Exceeds ∨ ∃ a, x = ok a ∧ (f a).Exceeds := by
  cases x with
  | ok a => simp [bind]
  | faulty fs => simp [bind, Exceeds, faults]

lemma exceeds_andAlso {x : Checked α} {more : List FieldFault}
    (hmore : ∀ f ∈ more, f.complaint.excess? = none) : (x.andAlso more).Exceeds ↔ x.Exceeds := by
  have hno : ¬∃ f ∈ more, f.complaint.excess?.isSome = true := by
    rintro ⟨f, hf, hs⟩
    rw [hmore f hf] at hs
    exact absurd hs Bool.false_ne_true
  cases more with
  | nil => cases x <;> rfl
  | cons g more =>
    cases x with
    | ok a => exact iff_of_false hno (exceeds_ok a)
    | faulty fs =>
      simp only [Exceeds, andAlso, faults, List.mem_append, or_and_right, exists_or] at hno ⊢
      exact or_iff_left hno

lemma not_exceeds_all {check : α → Checked β} (h : ∀ a, ¬(check a).Exceeds) (i : Nat) (as : List α) :
    ¬(all check i as).Exceeds := by
  induction as generalizing i with
  | nil => exact exceeds_ok []
  | cons a as ih => simp [all, h a, ih]

/-- A duration beyond all bounds makes the failure; other complaints are left to the caller. -/
lemma orFail_cases (c : Checked α) (failure : List FieldFault → Failure) :
    (∃ a, c = ok a ∧ c.orFail failure = .ok a) ∨
      (c.Exceeds ∧ ∃ days, c.orFail failure = .error (.outOfRange (.duration days))) ∨
      (¬c.Exceeds ∧ ∃ fs, c = faulty fs ∧ c.orFail failure = .error (failure fs)) := by
  cases c with
  | ok a => exact .inl ⟨a, rfl, rfl⟩
  | faulty fs =>
    cases hfind : fs.findSome? fun f => f.complaint.excess? with
    | some days =>
      obtain ⟨f, hf, hs⟩ := List.exists_of_findSome?_eq_some hfind
      refine .inr (.inl ⟨⟨f, hf, by rw [hs]; rfl⟩, days, ?_⟩)
      simp only [orFail, hfind]
    | none =>
      rw [List.findSome?_eq_none_iff] at hfind
      refine .inr (.inr ⟨?_, fs, rfl, ?_⟩)
      · rintro ⟨f, hf, hs⟩
        rw [hfind f hf] at hs
        exact absurd hs Bool.false_ne_true
      · rw [← List.findSome?_eq_none_iff] at hfind
        simp only [orFail, hfind]

end Checked

namespace Value

open Checked

lemma not_exceeds_asString (v : Value) : ¬v.asString.Exceeds := by
  cases v with
  | bytes bs =>
    simp only [asString]
    cases Text.decodeUtf8 bs <;> simp [Complaint.excess?]
  | _ => simp [asString, Complaint.excess?]

lemma not_exceeds_asStrings (v : Value) : ¬v.asStrings.Exceeds := by
  cases v with
  | list items => exact not_exceeds_all not_exceeds_asString 0 items
  | _ => simp [asStrings, asList, Complaint.excess?]

lemma not_exceeds_asOneOf {α : Type} (options : List (String × α)) (v : Value) :
    ¬(v.asOneOf options).Exceeds := by
  cases v with
  | str s =>
    simp only [asOneOf]
    cases s.string? with
    | none => simp [Complaint.excess?]
    | some text =>
      dsimp only
      cases options.lookup text <;> simp [Complaint.excess?]
  | _ => simp [asOneOf, Complaint.excess?]

lemma not_exceeds_integerOfWord (s : String) : ¬(integerOfWord s).Exceeds := by
  unfold integerOfWord
  split <;> simp [Complaint.excess?]

lemma not_exceeds_asInteger (v : Value) : ¬v.asInteger.Exceeds := by
  cases v with
  | float x =>
    simp only [asInteger]
    split_ifs
    · simp [Complaint.excess?]
    · split
      · simp [Complaint.excess?]
      · split_ifs <;> simp [Complaint.excess?]
  | str s =>
    simp only [asInteger, word?, exceeds_bind, not_or]
    refine ⟨?_, fun ⟨text, _, h⟩ => not_exceeds_integerOfWord text h⟩
    cases s.string? <;> simp [Complaint.excess?]
  | bytes bs =>
    simp only [asInteger, word?, exceeds_bind, not_or]
    refine ⟨?_, fun ⟨text, _, h⟩ => not_exceeds_integerOfWord text h⟩
    cases (Text.decodeUtf8 bs).toOption <;> simp [Complaint.excess?]
  | _ => simp [asInteger, word?, Complaint.excess?]

lemma exceeds_optional {α : Type} (check : Value → Checked α) (v : Value) :
    (optional check v).Exceeds ↔ v ≠ .null ∧ (check v).Exceeds := by
  cases v <;> simp [optional]

lemma not_exceeds_optional {α : Type} {check : Value → Checked α} (h : ∀ v, ¬(check v).Exceeds)
    (v : Value) : ¬(optional check v).Exceeds := by
  rw [exceeds_optional]
  exact fun hv => h v hv.2

namespace Mapping

lemma exceeds_fieldOr {α : Type} (default : α) (key : String) (check : Value → Checked α)
    (m : Mapping) :
    (fieldOr default key check m).Exceeds ↔ ∃ v, entry? key m = some v ∧ (check v).Exceeds := by
  unfold fieldOr
  cases entry? key m <;> simp

lemma not_exceeds_optionalField {α : Type} {check : Value → Checked α}
    (h : ∀ v, ¬(check v).Exceeds) (key : String) (m : Mapping) :
    ¬(fieldOr none key (optional check) m).Exceeds := by
  rw [exceeds_fieldOr]
  rintro ⟨v, -, hv⟩
  exact not_exceeds_optional h v hv

lemma exceeds_closed {α : Type} (known : List String) (check : Mapping → Checked α) (m : Mapping) :
    (closed known check m).Exceeds ↔ hasBrokenKey m = false ∧ (check m).Exceeds := by
  have hstray : ∀ f ∈ strayFaults known m, f.complaint.excess? = none := by
    intro f hf
    obtain ⟨e, -, he⟩ := List.mem_filterMap.mp hf
    unfold strayFault? at he
    split at he
    · split_ifs at he
      cases he
      rfl
    · cases he
      rfl
  unfold closed
  cases hasBrokenKey m with
  | true => simp [Complaint.excess?]
  | false => simp [exceeds_andAlso hstray]

end Mapping

end Value

end Triage
