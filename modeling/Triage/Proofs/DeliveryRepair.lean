import Mathlib
import Triage.Proofs.MarkEffects

/-!
# Deliveries that failed are repaired

The tracker may fail anywhere while a comment or a change of an issue is handled, so that a mark is made
by half or only some of the duplicates follow. Handling the same once more, now without failures, brings
every issue to where it would be had nothing failed at first. Only comments may be missing or doubled.
-/

namespace Triage.Duplicate

/-- What the duplicate relation is told of: a comment, or that an issue was closed or reopened. -/
inductive Notice where
  | comment (d : Delivery)
  | change (c : Cascade) (issue : Issue)

def Notice.handle (s : DuplicateSettings) : Notice → Op Failure Unit
  | .comment d => do
    let _ ← d.handle s
    return ()
  | .change c issue => do
    let _ ← c.run (some s) issue
    return ()

variable {s : DuplicateSettings} {t : Tracker} {h : Host}

/-- The same tracker when no call fails. -/
def calmed (t : Tracker) : Tracker := { t with fails := fun _ => none }

lemma resembles_refl (limit : DigitLimit) (r : Record) : Resembles limit r r :=
  (alike_refl limit r).toResembles

lemma Cascade.resembles_of_moves {c : Cascade} {limit : DigitLimit} {numbers more : List Int}
    {f g : Record → Record} (hf : c.Moves numbers f) (hg : c.Moves more g)
    (hsame : ∀ k, k ∈ numbers ↔ k ∈ more) (r : Record) : Resembles limit (f r) (g r) := by
  obtain ⟨first, hfirst⟩ := hf r
  obtain ⟨later, hlater⟩ := hg r
  have hsettled : c.settled more r = c.settled numbers r := by
    unfold settled
    simp only [hsame]
  rw [hfirst, hlater, hsettled]
  exact ⟨rfl, rfl, rfl⟩

section Repair

variable (hscope : t.scope.fullName = t.home)

include hscope

lemma comment_repaired (d : Delivery) (hbodies : ∀ r ∈ h.records, IsMarked t.digits r.issue.body) :
    List.Forall₂ (Resembles t.digits) (d.handle s (calmed t) h).2.records
      (d.handle s (calmed t) (d.handle s t h).2).2.records := by
  rcases d.handle_effect s t.digits with hnothing | ⟨c, hc, hperform⟩
  · rw [hnothing t h rfl, hnothing (calmed t) h rfl]
    exact List.forall₂_same.mpr fun r _ => resembles_refl t.digits r
  · rw [hperform t h rfl, hperform (calmed t) _ rfl, hperform (calmed t) _ rfl]
    have hcalm (h : Host) : h.Leaves (perform s d.issue.number c (calmed t) h).2
        (Record.only d.issue.number (c.performed t.digits s.label)) :=
      perform_calm (t := calmed t) hscope (fun _ => rfl) c
    rcases perform_leaves (s := s) (h := h) (n := d.issue.number) hscope c with hleft | hleft | hleft
    · refine (hcalm h).forall₂ (hleft.trans (hcalm _)) fun r hr => ?_
      rw [← Record.only_id d.issue.number]
      exact (performed_only_again hc (hbodies r hr) (.inl rfl)).toResembles
    · refine (hcalm h).forall₂ (hleft.trans (hcalm _)) fun r hr => ?_
      exact (performed_only_again hc (hbodies r hr) (.inr (.inl rfl))).toResembles
    · refine (hcalm h).forall₂ (hleft.trans (hcalm _)) fun r hr => ?_
      exact (performed_only_again hc (hbodies r hr) (.inr (.inr rfl))).toResembles

lemma Cascade.run_repaired (c : Cascade) (issue : Issue)
    (hfind : ∀ h, FindsExactly t h (c.query s.label t.scope) c.source.text s.label) :
    List.Forall₂ (Resembles t.digits) (c.run (some s) issue (calmed t) h).2.records
      (c.run (some s) issue (calmed t) (c.run (some s) issue t h).2).2.records := by
  cases henabled : c.isEnabled s with
  | false =>
    rw [run_disabled henabled, run_disabled henabled, run_disabled henabled]
    exact List.forall₂_same.mpr fun r _ => resembles_refl t.digits r
  | true =>
    have hfind' (h : Host) : FindsExactly (calmed t) h (c.query s.label t.scope) c.source.text s.label :=
      ⟨(hfind h).nodup, (hfind h).mem_iff⟩
    obtain ⟨moved, f, hleft, hf, -, hsub, -⟩ :=
      run_leaves issue hscope henabled (hfind h)
    obtain ⟨rest, g, hrest, hg, -, -, hallrest⟩ :=
      run_leaves (t := calmed t) issue hscope henabled (hfind' (c.run (some s) issue t h).2)
    obtain ⟨whole, w, hwhole, hw, -, -, hallwhole⟩ :=
      run_leaves (t := calmed t) issue hscope henabled (hfind' h)
    refine hwhole.forall₂ (hleft.trans hrest) fun r _ => resembles_of_moves hw (hf.trans hg) ?_ r
    intro k
    have hleftover : k ∈ c.next s (calmed t) (c.run (some s) issue t h).2 issue.number ↔
        k ∉ moved ∧ k ∈ c.next s (calmed t) h issue.number :=
      mem_next_left hf hleft hfind' issue.number k
    rw [List.mem_append, hallrest fun _ => rfl, hallwhole fun _ => rfl, hleftover]
    by_cases hk : k ∈ moved
    · exact iff_of_true (hsub k hk) (.inl hk)
    · simp [hk]

end Repair

/-- A notice whose handling failed anywhere, or nowhere, is handled once more without failures: the issues
are then as after one handling without failures, but for their comments. -/
theorem redelivery_repairs (s : DuplicateSettings) (t : Tracker) (h : Host) (notice : Notice)
    (hscope : t.scope.fullName = t.home)
    (hfind : ∀ (c : Cascade) (h : Host),
      Cascade.FindsExactly t h (c.query s.label t.scope) c.source.text s.label)
    (hbodies : ∀ r ∈ h.records, IsMarked t.digits r.issue.body) :
    let attempt := (notice.handle s t h).2
    List.Forall₂ (Resembles t.digits) (notice.handle s (calmed t) h).2.records
      (notice.handle s (calmed t) attempt).2.records := by
  intro attempt
  cases notice with
  | comment d =>
    have hhost (t : Tracker) (h : Host) : ((Notice.comment d).handle s t h).2 = (d.handle s t h).2 :=
      Op.bind_leaves fun _ _ _ => rfl
    rw [hhost, hhost, show attempt = _ from hhost t h]
    exact comment_repaired hscope d hbodies
  | change c issue =>
    have hhost (t : Tracker) (h : Host) :
        ((Notice.change c issue).handle s t h).2 = (c.run (some s) issue t h).2 :=
      Op.bind_leaves fun _ _ _ => rfl
    rw [hhost, hhost, show attempt = _ from hhost t h]
    exact c.run_repaired hscope issue (hfind c)

/-- A tracker with which the second of two duplicates cannot be closed. -/
def brokenTracker : Tracker :=
  { searchTracker with
    fails := fun log =>
      if log.getLast? = some (.change 3 (.setState "closed")) then some (.unreachable "reset")
      else none }

def closing : Notice := .change .close { number := 1, state := "closed" }

/-- The duplicate that could not be closed at first follows when the same is handled again. -/
theorem redelivery_repairs_brokenClose :
    let attempt := (closing.handle ⟨"duplicate", true, true⟩ brokenTracker twinHost).2
    attempt.records.map (·.issue.state) = ["closed", "closed", "open"] ∧
      (∀ r ∈ twinHost.records, IsMarked brokenTracker.digits r.issue.body) ∧
      List.Forall₂ (Resembles brokenTracker.digits)
        (closing.handle ⟨"duplicate", true, true⟩ (calmed brokenTracker) twinHost).2.records
        (closing.handle ⟨"duplicate", true, true⟩ (calmed brokenTracker) attempt).2.records := by
  have hfind (c : Cascade) (h : Host) : Cascade.FindsExactly brokenTracker h
      (c.query "duplicate" brokenTracker.scope) c.source.text "duplicate" :=
    ⟨(finds_searchTracker c h).nodup, (finds_searchTracker c h).mem_iff⟩
  exact ⟨by decide +kernel, isMarked_twins, redelivery_repairs ⟨"duplicate", true, true⟩ brokenTracker
    twinHost closing rfl hfind isMarked_twins⟩

end Triage.Duplicate
