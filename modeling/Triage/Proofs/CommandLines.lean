import Mathlib
import Triage.Command
import Triage.Proofs.TextRuns

/-!
# Where a text holds a command

A command opens a text or one of its later lines. A text that is put together from parts has the commands
of its parts and no others, when each part begins with a character that neither makes a command with what
is before it nor begins one. Of a part that begins within a line only the later lines count.
-/

namespace Triage

namespace Text

lemma join_cons_cons (separator row next : String) (rows : List String) :
    join separator (row :: next :: rows) = row ++ (separator ++ join separator (next :: rows)) := by
  simp [join, String.append_assoc]

lemma notMem_join {separator : String} {parts : List String} {c : Char} (hseparator : c ∉ separator.toList)
    (hparts : ∀ part ∈ parts, c ∉ part.toList) : c ∉ (join separator parts).toList := by
  induction parts with
  | nil => simp [join]
  | cons part parts ih =>
    rw [List.forall_mem_cons] at hparts
    cases parts with
    | nil => simpa [join] using hparts.1
    | cons next parts => simp [join_cons_cons, hparts.1, hseparator, ih hparts.2]

end Text

namespace Command

/-- The text begins with a command. -/
def Opens (cs : List Char) : Prop := ∃ w, Text.isWordChar w = true ∧ ['/', w] <+: cs

/-- A later line of the text begins with a command. -/
def OpensLater (cs : List Char) : Prop := ∃ w, Text.isWordChar w = true ∧ ['\n', '/', w] <:+: cs

lemma not_opens_nil : ¬Opens [] := by
  rintro ⟨w, -, hw⟩
  simp at hw

lemma not_opens_singleton (c : Char) : ¬Opens [c] := by
  rintro ⟨w, -, hw⟩
  simpa using hw.length_le

lemma opens_cons_cons {c d : Char} {cs : List Char} :
    Opens (c :: d :: cs) ↔ c = '/' ∧ Text.isWordChar d = true := by
  constructor
  · rintro ⟨w, hw, hbegin⟩
    simp only [List.cons_prefix_cons] at hbegin
    exact ⟨hbegin.1.symm, hbegin.2.1 ▸ hw⟩
  · rintro ⟨rfl, hd⟩
    exact ⟨d, hd, by simp [List.cons_prefix_cons]⟩

lemma not_opensLater_nil : ¬OpensLater [] := by
  rintro ⟨w, -, hw⟩
  simpa using hw.length_le

lemma opensLater_cons {c : Char} {cs : List Char} :
    OpensLater (c :: cs) ↔ c = '\n' ∧ Opens cs ∨ OpensLater cs := by
  constructor
  · rintro ⟨w, hw, hinfix⟩
    rcases List.infix_cons_iff.mp hinfix with hbegin | hinfix
    · rw [List.cons_prefix_cons] at hbegin
      exact .inl ⟨hbegin.1.symm, w, hw, hbegin.2⟩
    · exact .inr ⟨w, hw, hinfix⟩
  · rintro (⟨rfl, w, hw, hbegin⟩ | ⟨w, hw, hinfix⟩)
    · exact ⟨w, hw, (List.cons_prefix_cons.mpr ⟨rfl, hbegin⟩).isInfix⟩
    · exact ⟨w, hw, hinfix.trans (List.infix_cons_iff.mpr (.inr (List.infix_refl _)))⟩

lemma ofLine?_eq_none_iff {line : List Char} : ofLine? line = none ↔ ¬Opens line := by
  match line with
  | [] => exact iff_of_true rfl not_opens_nil
  | [c] =>
    refine iff_of_true ?_ (not_opens_singleton c)
    by_cases hc : c = '/'
    · rw [hc]
      rfl
    · simp [ofLine?, hc]
  | c :: d :: rest =>
    rw [opens_cons_cons]
    by_cases hc : c = '/'
    · subst hc
      by_cases hd : Text.isWordChar d = true
      · simp [ofLine?, hd]
      · simp [ofLine?, hd]
    · simp [ofLine?, hc]

lemma opens_takeWhile {cs : List Char} : Opens (cs.takeWhile (· ≠ '\n')) ↔ Opens cs := by
  match cs with
  | [] => rfl
  | [c] =>
    refine iff_of_false ?_ (not_opens_singleton c)
    by_cases hc : c = '\n'
    · simp [hc, not_opens_nil]
    · simp [hc, not_opens_singleton]
  | c :: d :: rest =>
    rw [opens_cons_cons]
    by_cases hc : c = '\n'
    · refine iff_of_false ?_ ?_
      · simp [hc, not_opens_nil]
      · rw [hc]
        simp
    · by_cases hd : d = '\n'
      · refine iff_of_false ?_ ?_
        · simp [hc, hd, not_opens_singleton]
        · rw [hd]
          exact fun h => absurd h.2 (by decide)
      · rw [List.takeWhile_cons_of_pos (by simpa using hc), List.takeWhile_cons_of_pos (by simpa using hd),
          opens_cons_cons]

lemma exists_pieces (cs : List Char) :
    ∃ later, Text.pieces '\n' cs = cs.takeWhile (· ≠ '\n') :: later ∧ ((∃ line ∈ later, Opens line) ↔ OpensLater cs) := by
  induction cs with
  | nil => exact ⟨[], rfl, by simp [not_opensLater_nil]⟩
  | cons c cs ih =>
    obtain ⟨later, hpieces, hlater⟩ := ih
    by_cases hc : c = '\n'
    · -- the first line of the rest is a later line of the whole
      refine ⟨cs.takeWhile (· ≠ '\n') :: later, ?_, ?_⟩
      · rw [Text.pieces, if_pos hc, hpieces]
        simp [hc]
      · rw [opensLater_cons, List.exists_mem_cons_iff, opens_takeWhile, hlater, and_iff_right hc]
    · refine ⟨later, ?_, ?_⟩
      · rw [Text.pieces, if_neg hc, hpieces]
        simp [hc]
      · rw [opensLater_cons, hlater]
        simp [hc]

theorem find?_eq_none_iff {text : String} :
    find? text = none ↔ ¬Opens text.toList ∧ ¬OpensLater text.toList := by
  obtain ⟨later, hpieces, hlater⟩ := exists_pieces text.toList
  rw [find?, hpieces, List.findSome?_eq_none_iff, List.forall_mem_cons, ofLine?_eq_none_iff,
    opens_takeWhile, ← hlater]
  simp only [ofLine?_eq_none_iff, not_exists, not_and]

/-- The text begins with a character that neither makes a command with what is before it nor begins one. -/
def Guards (cs : List Char) : Prop := cs.head?.any (fun c => c ≠ '/' && !Text.isWordChar c) = true

instance (cs : List Char) : Decidable (Guards cs) := inferInstanceAs (Decidable (_ = true))

lemma Guards.append {cs : List Char} (h : Guards cs) (more : List Char) : Guards (cs ++ more) := by
  cases cs with
  | nil => cases h
  | cons c cs => exact h

lemma guards_append {s : String} (h : Guards s.toList) (more : String) : Guards (s ++ more).toList := by
  rw [String.toList_append]
  exact h.append _

lemma guards_cons {c : Char} {cs : List Char} :
    Guards (c :: cs) ↔ c ≠ '/' ∧ Text.isWordChar c = false := by
  simp [Guards]

lemma opens_append {a b : List Char} (hb : Guards b) : Opens (a ++ b) ↔ Opens a := by
  cases b with
  | nil => cases hb
  | cons d b =>
    obtain ⟨hslash, hword⟩ := guards_cons.mp hb
    match a with
    | [] =>
      refine iff_of_false ?_ not_opens_nil
      rintro ⟨w, -, hbegin⟩
      exact hslash (List.cons_prefix_cons.mp hbegin).1.symm
    | [c] =>
      refine iff_of_false ?_ (not_opens_singleton c)
      rw [List.singleton_append, opens_cons_cons, hword]
      simp
    | c :: c' :: a => rw [List.cons_append, List.cons_append, opens_cons_cons, opens_cons_cons]

lemma Guards.not_opens {cs : List Char} (h : Guards cs) : ¬Opens cs := by
  have hnone := (opens_append (a := []) h).not.mpr not_opens_nil
  rwa [List.nil_append] at hnone

lemma opensLater_append {a b : List Char} (hb : Guards b) :
    OpensLater (a ++ b) ↔ OpensLater a ∨ OpensLater b := by
  induction a with
  | nil => exact (or_iff_right not_opensLater_nil).symm
  | cons c a ih => rw [List.cons_append, opensLater_cons, opensLater_cons, opens_append hb, ih, or_assoc]

lemma opensLater_append_right {a b : List Char} (ha : '\n' ∉ a) : OpensLater (a ++ b) ↔ OpensLater b := by
  induction a with
  | nil => rfl
  | cons c a ih =>
    rw [List.mem_cons, not_or] at ha
    rw [List.cons_append, opensLater_cons, ih ha.2]
    simp [Ne.symm ha.1]

lemma not_opensLater {cs : List Char} (h : '\n' ∉ cs) : ¬OpensLater cs := by
  have hnone := (opensLater_append_right (b := []) h).not.mpr not_opensLater_nil
  rwa [List.append_nil] at hnone

/-- Of a text between others on its line nothing but its own lines matters. -/
lemma opensLater_between (lead text tail rest : String) (hlead : '\n' ∉ lead.toList)
    (hguard : Guards tail.toList) (htail : '\n' ∉ tail.toList) :
    OpensLater (lead ++ (text ++ (tail ++ rest))).toList ↔
      OpensLater text.toList ∨ OpensLater rest.toList := by
  simp only [String.toList_append]
  rw [opensLater_append_right hlead, opensLater_append (hguard.append _), opensLater_append_right htail]

end Command

end Triage
