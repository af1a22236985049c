import Mathlib
import Triage.Text.Find

/-!
# First occurrences of a literal

A literal occurs in a text when it is an infix of it. `Text.cut?` finds the first occurrence: it fails
exactly when there is none, and it stops at a given one exactly when none begins before it.
-/

namespace Triage.Text

lemma dropLiteral?_eq_none_iff {l cs : List Char} : dropLiteral? l cs = none ↔ ¬l <+: cs := by
  rw [← not_iff_not, not_not, ← ne_eq, Option.ne_none_iff_exists']
  constructor
  · rintro ⟨rest, h⟩
    exact ⟨rest, (eq_append_of_dropLiteral? h).symm⟩
  · rintro ⟨rest, rfl⟩
    exact ⟨rest, dropLiteral?_append l rest⟩

theorem cut?_eq_none_iff {l cs : List Char} (hl : l ≠ []) : cut? l cs = none ↔ ¬l <:+: cs := by
  induction cs with
  | nil => simp [cut?, hl]
  | cons c cs ih =>
    rw [cut?, List.infix_cons_iff, not_or, ← ih, ← dropLiteral?_eq_none_iff]
    cases dropLiteral? l (c :: cs) <;> simp

theorem exists_cut? {l cs : List Char} (hl : l ≠ []) (h : l <:+: cs) :
    ∃ a b, cut? l cs = some (a, b) := by
  cases hcut : cut? l cs with
  | none => exact absurd h ((cut?_eq_none_iff hl).mp hcut)
  | some r => exact ⟨r.1, r.2, rfl⟩

/-- An occurrence that ends within `a ++ l` and is as long as `l` leaves out only the last character
at most, so that it would begin before the one behind `a`. -/
lemma isPrefix_append_dropLast {l a b : List Char} (ha : a ≠ []) (h : l <+: a ++ (l ++ b)) :
    l <+: a ++ l.dropLast := by
  have hlen : l.length ≤ (a ++ l.dropLast).length := by
    have := List.length_pos_iff.mpr ha
    simp only [List.length_append, List.length_dropLast]
    omega
  refine List.prefix_of_prefix_length_le h ?_ hlen
  exact (List.prefix_append_right_inj a).mpr ((List.dropLast_prefix l).trans (List.prefix_append l b))

theorem cut?_append {l a : List Char} (hl : l ≠ []) (h : ¬l <:+: a ++ l.dropLast) (b : List Char) :
    cut? l (a ++ (l ++ b)) = some (a, b) := by
  induction a with
  | nil =>
    obtain ⟨c, cs, rfl⟩ := List.exists_cons_of_ne_nil hl
    have hd := dropLiteral?_append (c :: cs) b
    rw [List.cons_append] at hd
    rw [List.nil_append, List.cons_append, cut?, hd]
  | cons c a ih =>
    have hfront : dropLiteral? l (c :: (a ++ (l ++ b))) = none := by
      rw [dropLiteral?_eq_none_iff]
      exact fun hp => h (isPrefix_append_dropLast (List.cons_ne_nil c a) hp).isInfix
    have hrest : ¬l <:+: a ++ l.dropLast := fun hi => h (hi.trans (List.suffix_cons c _).isInfix)
    rw [List.cons_append, cut?, hfront, ih hrest]
    rfl

/-- What precedes the first occurrence has none that begins in it. -/
theorem not_isInfix_of_cut? {l cs a b : List Char} (hl : l ≠ []) (h : cut? l cs = some (a, b)) :
    ¬l <:+: a ++ l.dropLast := by
  induction cs generalizing a b with
  | nil => simp [cut?, hl] at h
  | cons c cs ih =>
    rw [cut?] at h
    split at h
    · obtain ⟨rfl, -⟩ := Prod.mk.inj (Option.some.inj h)
      intro hi
      have hlen := hi.length_le
      rw [List.nil_append, List.length_dropLast] at hlen
      have := List.length_pos_iff.mpr hl
      omega
    · rename_i hfront
      obtain ⟨⟨u, v⟩, hu, huv⟩ := Option.map_eq_some_iff.mp h
      obtain ⟨rfl, rfl⟩ := Prod.mk.inj huv
      rw [List.cons_append, List.infix_cons_iff, not_or]
      refine ⟨fun hp => dropLiteral?_eq_none_iff.mp hfront (hp.trans ?_), ih hu⟩
      rw [eq_append_of_cut? hu, List.append_assoc, List.prefix_cons_inj, List.prefix_append_right_inj]
      exact (List.dropLast_prefix l).trans (List.prefix_append l v)

/-- More text at the end does not change where the first occurrence is. -/
theorem cut?_append_right {l cs a b : List Char} (hl : l ≠ []) (h : cut? l cs = some (a, b))
    (more : List Char) : cut? l (cs ++ more) = some (a, b ++ more) := by
  have hcut := cut?_append hl (not_isInfix_of_cut? hl h) (b ++ more)
  rwa [← List.append_assoc, ← List.append_assoc, ← eq_append_of_cut? h] at hcut

/-- A character that the literal does not contain keeps its occurrences apart. -/
theorem isInfix_append_cons_iff {l a b : List Char} {c : Char} (hc : c ∉ l) :
    l <:+: a ++ c :: b ↔ l <:+: a ∨ l <:+: b := by
  constructor
  · rintro ⟨u, v, h⟩
    rw [List.append_assoc, List.append_eq_append_iff] at h
    rcases h with ⟨w, rfl, hw⟩ | ⟨w, rfl, hw⟩
    · rcases List.append_eq_append_iff.mp hw with ⟨x, rfl, -⟩ | ⟨x, rfl, hx⟩
      · exact .inl ⟨u, x, by simp⟩
      · cases x with
        | nil => exact .inl ⟨u, [], by simp⟩
        | cons d x =>
          obtain rfl : c = d := by simpa using congrArg List.head? hx
          exact absurd (by simp) hc
    · cases w with
      | nil =>
        cases l with
        | nil => exact .inl ⟨[], a, rfl⟩
        | cons d l =>
          obtain rfl : c = d := by simpa using congrArg List.head? hw
          exact absurd (by simp) hc
      | cons d w =>
        exact .inr ⟨w, v, by simpa using (List.cons.inj hw).2.symm⟩
  · rintro (h | h)
    · exact h.trans (List.prefix_append a _).isInfix
    · exact h.trans ((List.suffix_cons c b).trans (List.suffix_append a _)).isInfix

/-- The first occurrence behind a text without one and a character that no occurrence contains. -/
theorem cut?_append_cons {l a : List Char} {c : Char} (hl : l ≠ []) (hc : c ∉ l) (ha : ¬l <:+: a)
    (b : List Char) : cut? l (a ++ c :: b) = (cut? l b).map fun r => (a ++ c :: r.1, r.2) := by
  cases hcut : cut? l b with
  | none =>
    rw [cut?_eq_none_iff hl] at hcut
    rw [Option.map_none, cut?_eq_none_iff hl, isInfix_append_cons_iff hc, not_or]
    exact ⟨ha, hcut⟩
  | some r =>
    have hrest : ¬l <:+: (a ++ c :: r.1) ++ l.dropLast := by
      rw [List.append_assoc, List.cons_append, isInfix_append_cons_iff hc, not_or]
      exact ⟨ha, not_isInfix_of_cut? hl hcut⟩
    have hfound := cut?_append hl hrest r.2
    rwa [List.append_assoc, List.cons_append, ← List.append_assoc, ← eq_append_of_cut? hcut] at hfound

end Triage.Text
