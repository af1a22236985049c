import Mathlib
import Triage.Text.Blank
import Triage.Text.Digit

/-!
# Runs of characters

A reader takes the longest run of characters of a class, and goes on where the class ends. So a run that is
followed by none of its own class is taken as a whole. Trimming and splitting into words are told by such
runs, and the classes that follow each other in a text have to be apart.
-/

namespace Triage.Text

section Runs

variable {p : Char → Bool} {cs core rest : List Char}

/-- The text does not begin with a character of the class. -/
def Stops (p : Char → Bool) (cs : List Char) : Prop := ∀ c ∈ cs.head?, p c = false

instance (p : Char → Bool) (cs : List Char) : Decidable (Stops p cs) :=
  inferInstanceAs (Decidable (∀ c ∈ cs.head?, p c = false))

lemma stops_cons {c : Char} (hc : p c = false) : Stops p (c :: cs) := by
  rintro d ⟨⟩
  exact hc

lemma stops_of_forall (h : ∀ c ∈ cs, p c = false) : Stops p cs :=
  fun c hc => h c (List.mem_of_head? hc)

lemma stops_append (hne : cs ≠ []) (h : ∀ c ∈ cs, p c = false) (rest : List Char) :
    Stops p (cs ++ rest) := by
  obtain ⟨c, cs, rfl⟩ := List.exists_cons_of_ne_nil hne
  exact stops_cons (h c List.mem_cons_self)

lemma stops_dropWhile (p : Char → Bool) (cs : List Char) : Stops p (cs.dropWhile p) := by
  intro c hc
  have hhead := List.head?_dropWhile_not p cs
  rw [Option.mem_def.mp hc] at hhead
  exact hhead

lemma takeWhile_eq_of_stops (hcs : ∀ c ∈ cs, p c = true) (hrest : Stops p rest) :
    (cs ++ rest).takeWhile p = cs := by
  rw [List.takeWhile_append_of_pos hcs]
  cases rest with
  | nil => exact List.append_nil cs
  | cons c rest => rw [List.takeWhile_cons_of_neg (by simp [hrest c rfl]), List.append_nil]

lemma dropWhile_eq_of_stops (hcs : ∀ c ∈ cs, p c = true) (hrest : Stops p rest) :
    (cs ++ rest).dropWhile p = rest := by
  rw [List.dropWhile_append_of_pos hcs]
  cases rest with
  | nil => rfl
  | cons c rest => exact List.dropWhile_cons_of_neg (by simp [hrest c rfl])

lemma forall_mem_takeWhile (p : Char → Bool) (cs : List Char) : ∀ c ∈ cs.takeWhile p, p c = true :=
  fun _ hc => List.mem_takeWhile_imp hc

/-- What is left of a text without the characters of the class at its two ends. -/
structure Trimmed (p : Char → Bool) (cs core : List Char) : Prop where
  cut : ∃ lead trail, cs = lead ++ (core ++ trail) ∧ (∀ c ∈ lead, p c = true) ∧ ∀ c ∈ trail, p c = true
  first : Stops p core
  last : Stops p core.reverse

lemma trimmed_trimBy (p : Char → Bool) (cs : List Char) : Trimmed p cs (trimBy p cs) := by
  have hlead := List.takeWhile_append_dropWhile (p := p) (l := cs)
  have hback := List.takeWhile_append_dropWhile (p := p) (l := (cs.dropWhile p).reverse)
  have hbody : trimBy p cs ++ ((cs.dropWhile p).reverse.takeWhile p).reverse = cs.dropWhile p := by
    rw [trimBy, ← List.reverse_append, hback, List.reverse_reverse]
  refine ⟨⟨cs.takeWhile p, ((cs.dropWhile p).reverse.takeWhile p).reverse, ?_, forall_mem_takeWhile p cs, ?_⟩,
    ?_, ?_⟩
  · rw [hbody, hlead]
  · intro c hc
    exact forall_mem_takeWhile p _ c (List.mem_reverse.mp hc)
  · intro c hc
    refine stops_dropWhile p cs c ?_
    rw [← hbody, List.head?_append, Option.mem_def.mp hc]
    rfl
  · rw [trimBy, List.reverse_reverse]
    exact stops_dropWhile p _

/-- Trimming leaves the text between its blank ends, and there is only one such. -/
theorem trimBy_eq_iff : trimBy p cs = core ↔ Trimmed p cs core := by
  constructor
  · rintro rfl
    exact trimmed_trimBy p cs
  · rintro ⟨⟨lead, trail, rfl, hlead, htrail⟩, hfirst, hlast⟩
    have hback : ∀ c ∈ trail.reverse, p c = true := fun c hc => htrail c (List.mem_reverse.mp hc)
    cases core with
    | nil =>
      have hall : ∀ c ∈ lead ++ ([] ++ trail), p c = true := by
        simpa [or_imp, forall_and] using ⟨hlead, htrail⟩
      rw [trimBy, List.dropWhile_eq_nil_iff.mpr hall]
      rfl
    | cons d core =>
      have hstart : Stops p (d :: core ++ trail) := stops_cons (hfirst d rfl)
      rw [trimBy, dropWhile_eq_of_stops hlead hstart, List.reverse_append,
        dropWhile_eq_of_stops hback hlast, List.reverse_reverse]

/-- The fields of a text are the pieces between the characters of the class, without the empty ones. -/
lemma fieldsBy_eq_splitOnP (p : Char → Bool) (cs : List Char) :
    fieldsBy p cs = (cs.splitOnP p).filter (· ≠ []) := by
  induction cs with
  | nil => rfl
  | cons c cs ih =>
    rw [List.splitOnP_cons_eq_if_modifyHead, fieldsBy.eq_def]
    by_cases hc : p c = true
    · simp [hc, ih]
    · cases cs with
      | nil => simp [hc]
      | cons d cs =>
        rw [List.splitOnP_cons_eq_if_modifyHead] at ih ⊢
        by_cases hd : p d = true
        · simp [hc, hd, ih]
        · obtain ⟨piece, pieces, hpieces⟩ := List.exists_cons_of_ne_nil (List.splitOnP_ne_nil p cs)
          simp [hc, hd, ih, hpieces]

lemma eq_false_of_mem_splitOnP {piece : List Char} (h : piece ∈ cs.splitOnP p) : ∀ c ∈ piece, p c = false := by
  induction cs generalizing piece with
  | nil =>
    rw [List.splitOnP_nil, List.mem_singleton] at h
    simp [h]
  | cons c cs ih =>
    rw [List.splitOnP_cons_eq_if_modifyHead] at h
    by_cases hc : p c = true
    · rw [if_pos hc, List.mem_cons] at h
      rcases h with rfl | h
      · exact fun _ hd => absurd hd List.not_mem_nil
      · exact ih h
    · obtain ⟨first, later, hpieces⟩ := List.exists_cons_of_ne_nil (List.splitOnP_ne_nil p cs)
      rw [if_neg hc, hpieces, List.modifyHead_cons, List.mem_cons] at h
      rw [hpieces] at ih
      rcases h with rfl | h
      · exact List.forall_mem_cons.mpr ⟨Bool.eq_false_iff.mpr hc, ih List.mem_cons_self⟩
      · exact ih (List.mem_cons_of_mem first h)

lemma notMem_of_mem_fieldsBy {w : List Char} (hw : w ∈ fieldsBy p cs) {c : Char} (hc : p c = true) : c ∉ w := by
  rw [fieldsBy_eq_splitOnP, List.mem_filter] at hw
  intro h
  rw [eq_false_of_mem_splitOnP hw.1 c h] at hc
  cases hc

lemma fieldsBy_append_cons {c : Char} (hc : p c = true) (cs rest : List Char) :
    fieldsBy p (cs ++ c :: rest) = fieldsBy p cs ++ fieldsBy p rest := by
  simp only [fieldsBy_eq_splitOnP, List.splitOnP_append_cons _ _ hc, List.filter_append]

/-- A text without characters of the class is one field. -/
lemma fieldsBy_of_forall (hne : cs ≠ []) (hcs : ∀ c ∈ cs, p c = false) : fieldsBy p cs = [cs] := by
  rw [fieldsBy_eq_splitOnP, List.splitOnP_eq_singleton hcs, List.filter_cons_of_pos (by simpa using hne),
    List.filter_nil]

lemma fieldsBy_append_left {gap : List Char} (hgap : ∀ c ∈ gap, p c = true) (cs : List Char) :
    fieldsBy p (gap ++ cs) = fieldsBy p cs := by
  induction gap with
  | nil => rfl
  | cons c gap ih =>
    rw [List.forall_mem_cons] at hgap
    have hfirst := fieldsBy_append_cons hgap.1 [] (gap ++ cs)
    exact hfirst.trans (ih hgap.2)

lemma fieldsBy_append_right {gap : List Char} (hgap : ∀ c ∈ gap, p c = true) (cs : List Char) :
    fieldsBy p (cs ++ gap) = fieldsBy p cs := by
  cases gap with
  | nil => rw [List.append_nil]
  | cons c gap =>
    rw [List.forall_mem_cons] at hgap
    have hempty : fieldsBy p (gap ++ []) = [] := fieldsBy_append_left hgap.2 []
    rw [List.append_nil] at hempty
    rw [fieldsBy_append_cons hgap.1, hempty, List.append_nil]

/-- Trimming takes no field away. -/
lemma fieldsBy_trimBy (p : Char → Bool) (cs : List Char) : fieldsBy p (trimBy p cs) = fieldsBy p cs := by
  obtain ⟨lead, trail, hcut, hlead, htrail⟩ := (trimmed_trimBy p cs).cut
  conv_rhs => rw [hcut]
  rw [fieldsBy_append_left hlead, fieldsBy_append_right htrail]

end Runs

section Classes

variable {c : Char}

/-- Digits other than the ASCII ones lie beyond the letters, and beside every blank above these. -/
lemma toNat_of_isDigit (h : isDigit c = true) : 0x30 ≤ c.toNat ∧ c.toNat ≤ 0x39 ∨
    0x660 ≤ c.toNat ∧ c.toNat ≠ 0x1680 ∧ (c.toNat < 0x2000 ∨ 0x3000 < c.toNat) := by
  obtain ⟨n, hn⟩ := Option.isSome_iff_exists.mp h
  obtain ⟨z, hz, -⟩ := Option.map_eq_some_iff.mp hn
  have hrun := List.find?_some hz
  have hplaces : ∀ z ∈ digitZeros, z = 0x30 ∨ 0x660 ≤ z ∧ (0x1680 < z ∨ z + 10 ≤ 0x1680) ∧
      (z + 10 ≤ 0x2000 ∨ 0x3000 < z) := by decide
  have hplace := hplaces z (List.mem_of_find?_eq_some hz)
  simp only [Bool.and_eq_true, decide_eq_true_eq] at hrun
  omega

lemma toNat_of_isBlank (h : isBlank c = true) : c.toNat ≤ 0x20 ∨ c.toNat = 0x85 ∨ c.toNat = 0xA0 ∨
    c.toNat = 0x1680 ∨ 0x2000 ≤ c.toNat ∧ c.toNat ≤ 0x3000 := by
  simp only [isBlank, isSpace, Bool.or_eq_true, Bool.and_eq_true, decide_eq_true_eq, beq_iff_eq] at h
  omega

lemma toNat_of_isAlpha (h : c.isAlpha = true) : 0x41 ≤ c.toNat ∧ c.toNat ≤ 0x7A := by
  simp only [Char.isAlpha, Char.isUpper, Char.isLower, Bool.or_eq_true, Bool.and_eq_true, decide_eq_true_eq,
    ge_iff_le, UInt32.le_iff_toNat_le] at h
  change (65 ≤ c.toNat ∧ c.toNat ≤ 90) ∨ (97 ≤ c.toNat ∧ c.toNat ≤ 122) at h
  omega

lemma isBlank_of_isDigit (h : isDigit c = true) : isBlank c = false := by
  rw [Bool.eq_false_iff]
  intro hblank
  have hdigit := toNat_of_isDigit h
  have hplace := toNat_of_isBlank hblank
  omega

lemma isDigit_of_isBlank (h : isBlank c = true) : isDigit c = false := by
  rw [Bool.eq_false_iff]
  intro hdigit
  rw [isBlank_of_isDigit hdigit] at h
  cases h

lemma isBlank_of_isAlpha (h : c.isAlpha = true) : isBlank c = false := by
  rw [Bool.eq_false_iff]
  intro hblank
  have hletter := toNat_of_isAlpha h
  have hplace := toNat_of_isBlank hblank
  omega

lemma isAlpha_of_isBlank (h : isBlank c = true) : c.isAlpha = false := by
  rw [Bool.eq_false_iff]
  intro hletter
  rw [isBlank_of_isAlpha hletter] at h
  cases h

lemma isDigit_of_isAlpha (h : c.isAlpha = true) : isDigit c = false := by
  rw [Bool.eq_false_iff]
  intro hdigit
  have hletter := toNat_of_isAlpha h
  have hplace := toNat_of_isDigit hdigit
  omega

end Classes

end Triage.Text
