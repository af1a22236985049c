import Mathlib
import Triage.Labels

/-!
# The difference of label lists

Labels without others are what the list and the others leave as sets, each once and in the order of first
occurrence. The list is gone through from the left and a label is looked up in what was kept so far, so
order, membership and uniqueness are kept together by every step.
-/

namespace Triage.Labels

/-- What is kept of the labels that have been gone through. -/
structure Keeps (targets seen kept : List String) : Prop where
  mem_iff : ∀ l, l ∈ kept ↔ l ∈ seen ∧ l ∉ targets
  ordered : kept.Pairwise fun a b => seen.idxOf a < seen.idxOf b

variable {targets seen kept : List String}

lemma Keeps.nodup (h : Keeps targets seen kept) : kept.Nodup := by
  apply h.ordered.imp
  rintro a _ hlt rfl
  exact lt_irrefl _ hlt

lemma Keeps.step (h : Keeps targets seen kept) (l : String) :
    Keeps targets (seen ++ [l]) (if l ∈ targets ∨ l ∈ kept then kept else kept ++ [l]) := by
  have hidx : ∀ a ∈ kept, (seen ++ [l]).idxOf a = seen.idxOf a := by
    intro a ha
    exact List.idxOf_append_of_mem ((h.mem_iff a).mp ha).1
  have hordered : kept.Pairwise fun a b => (seen ++ [l]).idxOf a < (seen ++ [l]).idxOf b := by
    apply h.ordered.imp_of_mem
    intro a b ha hb hab
    rwa [hidx a ha, hidx b hb]
  by_cases hl : l ∈ targets ∨ l ∈ kept
  · rw [if_pos hl]
    refine ⟨fun x => ?_, hordered⟩
    rw [h.mem_iff, List.mem_append, List.mem_singleton]
    constructor
    · exact fun hx => ⟨.inl hx.1, hx.2⟩
    · rintro ⟨hx | rfl, hnot⟩
      · exact ⟨hx, hnot⟩
      · exact (h.mem_iff x).mp (hl.resolve_left hnot)
  · rw [if_neg hl]
    rw [not_or] at hl
    -- a label that is kept now was not seen before
    have hnew : l ∉ seen := fun hseen => hl.2 ((h.mem_iff l).mpr ⟨hseen, hl.1⟩)
    constructor
    · intro x
      rw [List.mem_append, List.mem_append, List.mem_singleton, h.mem_iff]
      constructor
      · rintro (hx | rfl)
        · exact ⟨.inl hx.1, hx.2⟩
        · exact ⟨.inr rfl, hl.1⟩
      · rintro ⟨hx | rfl, hnot⟩
        · exact .inl ⟨hx, hnot⟩
        · exact .inr rfl
    · rw [List.pairwise_append]
      refine ⟨hordered, List.pairwise_singleton _ _, fun a ha b hb => ?_⟩
      rw [List.mem_singleton.mp hb, hidx a ha, List.idxOf_append_of_notMem hnew]
      exact Nat.lt_add_right _ (List.idxOf_lt_length_of_mem ((h.mem_iff a).mp ha).1)

lemma without_concat (current targets : List String) (l : String) :
    without (current ++ [l]) targets =
      if l ∈ targets ∨ l ∈ without current targets then without current targets
      else without current targets ++ [l] := List.foldl_concat ..

theorem keeps_without (current targets : List String) :
    Keeps targets current (without current targets) := by
  induction current using List.reverseRecOn with
  | nil => exact ⟨fun _ => iff_of_false List.not_mem_nil fun h => List.not_mem_nil h.1, .nil⟩
  | append_singleton current l ih =>
    rw [without_concat]
    exact ih.step l

lemma mem_without {current targets : List String} {l : String} :
    l ∈ without current targets ↔ l ∈ current ∧ l ∉ targets := (keeps_without current targets).mem_iff l

/-- To take labels off one after the other is to take them off together. -/
lemma without_without (current targets more : List String) :
    without (without current targets) more = without current (targets ++ more) := by
  induction current using List.reverseRecOn with
  | nil => rfl
  | append_singleton current l ih =>
    simp only [without_concat current, List.mem_append, ← ih]
    by_cases htarget : l ∈ targets
    · rw [if_pos (.inl htarget), if_pos (.inl (.inl htarget))]
    by_cases hfirst : l ∈ without current targets
    · -- what was kept the first time is kept the second time, or it is one of the others
      have hsecond : (l ∈ targets ∨ l ∈ more) ∨ l ∈ without (without current targets) more := by
        by_cases hmore : l ∈ more
        · exact .inl (.inr hmore)
        · exact .inr (mem_without.mpr ⟨hfirst, hmore⟩)
      rw [if_pos (.inr hfirst), if_pos hsecond]
    · rw [if_neg (not_or_intro htarget hfirst), without_concat]
      simp only [htarget, false_or]

/-- The labels that are not among the targets are left, none twice and in the order of their first
occurrence, and more targets can be taken off afterwards as well as at once. -/
theorem without_is_difference (current targets : List String) :
    (without current targets).Nodup ∧
      (∀ l, l ∈ without current targets ↔ l ∈ current ∧ l ∉ targets) ∧
      (without current targets).Pairwise (fun a b => current.idxOf a < current.idxOf b) ∧
      ∀ more, without (without current targets) more = without current (targets ++ more) := by
  have hkeeps := keeps_without current targets
  exact ⟨hkeeps.nodup, hkeeps.mem_iff, hkeeps.ordered, without_without current targets⟩

end Triage.Labels
