import Mathlib
import Triage.Metadata
import Triage.Proofs.JsonGrammar
import Triage.Proofs.JsonOrder
import Triage.Proofs.Occurrence

/-!
# Where a metadata comment ends

The end of a metadata comment begins with a brace and a blank. JSON text has a blank behind a brace
only inside of strings, and there only where the string itself has one. So the first end that follows
a comment's opening is its own, unless a text of the data holds an end, which is written as it is.
-/

namespace Triage.Metadata

/-- Whether the texts of one value are free of the end of a comment. -/
def AvoidsClosing : Json → Prop
  | .str s => ¬closing <:+: s.chars
  | .obj fields => ∀ k ∈ Entries.keys fields, ¬closing <:+: k.chars
  | _ => True

lemma closing_eq : closing = '\x7d' :: [' ', '-', '-', '>'] := rfl

lemma closing_isInfix_cons {c : Char} (hc : c ≠ '\x7d') {cs : List Char}
    (h : closing <:+: c :: cs) : closing <:+: cs := by
  rcases List.infix_cons_iff.mp h with hp | hi
  · rw [closing_eq, List.cons_prefix_cons] at hp
    exact absurd hp.1.symm hc
  · exact hi

lemma closing_isInfix_append {a b : List Char} (ha : '\x7d' ∉ a) (h : closing <:+: a ++ b) :
    closing <:+: b := by
  induction a with
  | nil => exact h
  | cons c a ih =>
    rw [List.mem_cons, not_or] at ha
    exact ih ha.2 (closing_isInfix_cons (Ne.symm ha.1) h)

lemma closing_isInfix_brace {cs : List Char} (hc : cs.head? ≠ some ' ')
    (h : closing <:+: '\x7d' :: cs) : closing <:+: cs := by
  rcases List.infix_cons_iff.mp h with hp | hi
  · rw [closing_eq, List.cons_prefix_cons] at hp
    obtain ⟨rest, rfl⟩ := hp.2
    exact absurd rfl hc
  · exact hi

lemma hexDigit_ne_brace {n : Nat} (hn : n < 16) : '\x7d' ≠ Json.hexDigit n := by
  have hall : ∀ m : Fin 16, '\x7d' ≠ Json.hexDigit m := by decide
  exact hall ⟨n, hn⟩

lemma brace_notMem_escapeUnit (n : Nat) : '\x7d' ∉ Json.escapeUnit n := by
  have hmod (m : Nat) : '\x7d' ≠ Json.hexDigit (m % 16) :=
    hexDigit_ne_brace (Nat.mod_lt m (by decide))
  simp [Json.escapeUnit, hmod]

/-- A code point stands for itself in JSON text, or it is escaped without a brace. -/
lemma escapePoint_cases (p : CodePoint) :
    Json.escapePoint p = [p.toChar] ∨
      (Json.escapePoint p).head? = some '\\' ∧ '\x7d' ∉ Json.escapePoint p := by
  cases p with
  | half n => exact .inr ⟨rfl, brace_notMem_escapeUnit _⟩
  | char c =>
    have hescape : Json.escapePoint (.char c) = Json.escapeChar c := rfl
    rw [hescape, Json.escapeChar]
    split_ifs
    iterate 7 exact .inr ⟨rfl, by decide⟩
    · exact .inl rfl
    · exact .inr ⟨rfl, brace_notMem_escapeUnit _⟩
    · refine .inr ⟨rfl, ?_⟩
      rw [List.mem_append, not_or]
      exact ⟨brace_notMem_escapeUnit _, brace_notMem_escapeUnit _⟩

/-- A text that needs no escapes begins an escaped text only where it begins the text itself. -/
lemma isPrefix_of_escaped {w : List Char} {ps : List CodePoint} (hw : '\\' ∉ w)
    (h : w <+: ps.flatMap Json.escapePoint) : w <+: ps.map CodePoint.toChar := by
  induction w generalizing ps with
  | nil => exact List.nil_prefix
  | cons x w ih =>
    rw [List.mem_cons, not_or] at hw
    cases ps with
    | nil => simp at h
    | cons p ps =>
      rw [List.flatMap_cons] at h
      rcases escapePoint_cases p with hp | ⟨hp, -⟩
      · rw [hp, List.singleton_append, List.cons_prefix_cons] at h
        exact List.cons_prefix_cons.mpr ⟨h.1, ih hw.2 h.2⟩
      · obtain ⟨es, he⟩ : ∃ es, Json.escapePoint p = '\\' :: es := by
          cases hes : Json.escapePoint p with
          | nil => simp [hes] at hp
          | cons e es => exact ⟨es, by simpa [hes] using hp⟩
        rw [he, List.cons_append, List.cons_prefix_cons] at h
        exact absurd h.1.symm hw.1

lemma closing_isInfix_of_escaped {ps : List CodePoint}
    (h : closing <:+: ps.flatMap Json.escapePoint) : closing <:+: ps.map CodePoint.toChar := by
  induction ps with
  | nil => exact h
  | cons p ps ih =>
    rw [List.flatMap_cons] at h
    rcases escapePoint_cases p with hp | ⟨-, hp⟩
    · have hprefix : closing <+: (p :: ps).flatMap Json.escapePoint →
          closing <+: (p :: ps).map CodePoint.toChar := isPrefix_of_escaped (by decide)
      rw [List.flatMap_cons, hp, List.singleton_append] at hprefix
      rw [hp, List.singleton_append, List.infix_cons_iff] at h
      exact List.infix_cons_iff.mpr (h.imp hprefix ih)
    · exact (ih (closing_isInfix_append hp h)).trans (List.suffix_cons _ _).isInfix

lemma closing_isInfix_string {s : CodeText} (hs : s.IsJoined) (hc : ¬closing <:+: s.chars)
    {rest : List Char} (h : closing <:+: Json.writeString s ++ rest) : closing <:+: rest := by
  have hchars : s.chars = s.points.map CodePoint.toChar := congrArg (List.map _) hs
  rw [hchars] at hc
  rw [Json.writeString, List.cons_append, List.append_assoc, List.singleton_append] at h
  have htail := closing_isInfix_cons (by decide) h
  rcases (Text.isInfix_append_cons_iff (by decide)).mp htail with hi | hi
  · exact absurd (closing_isInfix_of_escaped hi) hc
  · exact hi

lemma brace_notMem_ofInt (n : Int) : '\x7d' ∉ Text.ofInt n := by
  have hnat (m : Nat) : '\x7d' ∉ Text.ofNat m := fun hm =>
    absurd (Text.isAsciiDigit_of_mem_ofNat hm) (by decide)
  cases n with
  | ofNat m => exact hnat m
  | negSucc m => exact List.not_mem_cons_of_ne_of_not_mem (by decide) (hnat (m + 1))

lemma brace_notMem_float {x : Binary64} (hx : x.Fits) : '\x7d' ∉ Json.floatText.write x := by
  have hread : Json.value none 1 (Json.floatText.write x ++ []) = _ :=
    Json.value_float hx 0 Json.endsValue_nil
  rw [List.append_nil] at hread
  have hparsed := Json.parsed_value hread
  generalize Json.floatText.write x = text at hparsed ⊢
  have hplain : ∃ front, text = front ++ [] ∧ ∀ c ∈ front, Json.Plain c := by
    cases hparsed with
    | constant hconstant => exact Json.readConstant?_plain hconstant
    | positive hnumber => exact Json.readMagnitude_plain hnumber
    | negative hnumber =>
      obtain ⟨front, rfl, hplain⟩ := Json.readMagnitude_plain hnumber
      exact ⟨'-' :: front, rfl, List.forall_mem_cons.mpr ⟨by decide, hplain⟩⟩
  obtain ⟨front, rfl, hplain⟩ := hplain
  rw [List.append_nil]
  exact fun hbrace => absurd (hplain _ hbrace) (by decide)

/-- A brace in front of the text does not make an end of a comment with it. -/
def KeepsBrace (rest : List Char) : Prop := closing <:+: '\x7d' :: rest → closing <:+: rest

lemma keepsBrace_writeItems (l : List Json) (rest : List Char) :
    KeepsBrace (Json.writeItems l ++ rest) := by
  refine closing_isInfix_brace ?_
  cases l <;> simp [Json.writeItems]

lemma keepsBrace_writeFields (l : List (CodeText × Json)) (rest : List Char) :
    KeepsBrace (Json.writeFields l ++ rest) := by
  refine closing_isInfix_brace ?_
  cases l <;> simp [Json.writeFields]

-- What follows a value matters only behind the brace of an object, which ends it: a blank behind
-- that brace may begin an end of the comment.
mutual

/-- An end of a comment in JSON text and what follows it lies in what follows. -/
theorem closing_isInfix_of_write {limit : DigitLimit} : ∀ (j : Json) {rest : List Char},
    Json.All (Json.Legible limit) j → Json.All AvoidsClosing j → KeepsBrace rest →
    closing <:+: Json.write j ++ rest → closing <:+: rest
  | .null, _, _, _, _, h => closing_isInfix_append (by decide) h
  | .bool true, _, _, _, _, h => closing_isInfix_append (by decide) h
  | .bool false, _, _, _, _, h => closing_isInfix_append (by decide) h
  | .int n, _, _, _, _, h => closing_isInfix_append (brace_notMem_ofInt n) h
  | .float _, _, he, _, _, h => closing_isInfix_append (brace_notMem_float he) h
  | .str _, _, he, ha, _, h => closing_isInfix_string he ha h
  | .arr [], _, _, _, _, h => closing_isInfix_append (by decide) h
  | .obj [], _, _, _, hr, h => hr (closing_isInfix_cons (by decide) h)
  | .arr (j :: js), rest, he, ha, hr, h => by
    rw [Json.write, List.cons_append, List.append_assoc] at h
    have hitem : closing <:+: Json.write j ++ (Json.writeItems js ++ rest) :=
      closing_isInfix_cons (by decide) h
    have hitems := closing_isInfix_of_write j he.2.1 ha.2.1 (keepsBrace_writeItems js rest) hitem
    exact closing_isInfix_of_writeItems js he.2.2 ha.2.2 hitems
  | .obj ((k, j) :: fs), rest, he, ha, hr, h => by
    rw [Json.write, List.cons_append, List.append_assoc] at h
    have hmem : k ∈ Entries.keys ((k, j) :: fs) := List.mem_cons_self
    have hkey := closing_isInfix_string (he.1.2 k hmem) (ha.1 k hmem)
      (closing_isInfix_cons (by decide) h)
    rw [List.cons_append, List.cons_append, List.append_assoc] at hkey
    have hvalue : closing <:+: Json.write j ++ (Json.writeFields fs ++ rest) :=
      closing_isInfix_append (a := [':', ' ']) (by decide) hkey
    have hfields := closing_isInfix_of_write j he.2.1 ha.2.1 (keepsBrace_writeFields fs rest) hvalue
    exact closing_isInfix_of_writeFields fs (fun k' hk' => he.1.2 k' (List.mem_cons_of_mem _ hk'))
      (fun k' hk' => ha.1 k' (List.mem_cons_of_mem _ hk')) he.2.2 ha.2.2 hr hfields

theorem closing_isInfix_of_writeItems {limit : DigitLimit} : ∀ (l : List Json) {rest : List Char},
    Json.AllItems (Json.Legible limit) l → Json.AllItems AvoidsClosing l →
    closing <:+: Json.writeItems l ++ rest → closing <:+: rest
  | [], _, _, _, h => closing_isInfix_append (by decide) h
  | j :: js, rest, he, ha, h => by
    rw [Json.writeItems, List.cons_append, List.cons_append, List.append_assoc] at h
    have hitem : closing <:+: Json.write j ++ (Json.writeItems js ++ rest) :=
      closing_isInfix_append (a := [',', ' ']) (by decide) h
    have hitems := closing_isInfix_of_write j he.1 ha.1 (keepsBrace_writeItems js rest) hitem
    exact closing_isInfix_of_writeItems js he.2 ha.2 hitems

theorem closing_isInfix_of_writeFields {limit : DigitLimit} :
    ∀ (l : List (CodeText × Json)) {rest : List Char},
    (∀ k ∈ Entries.keys l, k.IsJoined) → (∀ k ∈ Entries.keys l, ¬closing <:+: k.chars) →
    Json.AllFields (Json.Legible limit) l → Json.AllFields AvoidsClosing l → KeepsBrace rest →
    closing <:+: Json.writeFields l ++ rest → closing <:+: rest
  | [], _, _, _, _, _, hr, h => hr h
  | (k, j) :: fs, rest, hk, hc, he, ha, hr, h => by
    rw [Json.writeFields, List.cons_append, List.cons_append, List.append_assoc] at h
    have hmem : k ∈ Entries.keys ((k, j) :: fs) := List.mem_cons_self
    have hkey := closing_isInfix_string (hk k hmem) (hc k hmem)
      (closing_isInfix_append (a := [',', ' ']) (by decide) h)
    rw [List.cons_append, List.cons_append, List.append_assoc] at hkey
    have hvalue : closing <:+: Json.write j ++ (Json.writeFields fs ++ rest) :=
      closing_isInfix_append (a := [':', ' ']) (by decide) hkey
    have hfields := closing_isInfix_of_write j he.1 ha.1 (keepsBrace_writeFields fs rest) hvalue
    exact closing_isInfix_of_writeFields fs (fun k' hk' => hk k' (List.mem_cons_of_mem _ hk'))
      (fun k' hk' => hc k' (List.mem_cons_of_mem _ hk')) he.2 ha.2 hr hfields

end

/-- Only a character shows itself, unless it is the one that stands for halves. -/
lemma eq_map_char {ps : List CodePoint} {cs : List Char} (hcs : '\uFFFD' ∉ cs)
    (h : ps.map CodePoint.toChar = cs) : ps = cs.map .char := by
  induction ps generalizing cs with
  | nil =>
    rw [← h]
    rfl
  | cons p ps ih =>
    subst h
    rw [List.map_cons, List.mem_cons, not_or] at hcs
    rw [List.map_cons, List.map_cons, ← ih hcs.2 rfl]
    cases p with
    | char c => rfl
    | half n => exact absurd rfl hcs.1

/-- An end of a comment in a text is written as it is. -/
lemma closing_isInfix_writeString {s : CodeText} (hs : s.IsJoined) (h : closing <:+: s.chars) :
    closing <:+: Json.writeString s := by
  have hchars : s.chars = s.points.map CodePoint.toChar := congrArg (List.map _) hs
  rw [hchars] at h
  obtain ⟨front, back, heq⟩ := h
  obtain ⟨ps, qs, hpoints, hps, -⟩ := List.map_eq_append_iff.mp heq.symm
  obtain ⟨os, cs, hsplit, -, hcs⟩ := List.map_eq_append_iff.mp hps
  have hclosing : cs.flatMap Json.escapePoint = closing := by
    rw [eq_map_char (by decide) hcs]
    decide
  refine ⟨'"' :: os.flatMap Json.escapePoint, qs.flatMap Json.escapePoint ++ ['"'], ?_⟩
  rw [Json.writeString, hpoints, hsplit, List.flatMap_append, List.flatMap_append, hclosing]
  simp

lemma not_isInfix_field {key value rest : List Char}
    (h : ¬closing <:+: key ++ ':' :: ' ' :: (value ++ rest)) :
    ¬closing <:+: key ∧ ¬closing <:+: value ∧ ¬closing <:+: rest := by
  rw [Text.isInfix_append_cons_iff (by decide), not_or] at h
  refine ⟨h.1, fun hi => h.2 (List.infix_cons ?_), fun hi => h.2 (List.infix_cons ?_)⟩
  · exact hi.trans (List.prefix_append _ _).isInfix
  · exact hi.trans (List.suffix_append _ _).isInfix

mutual

/-- An end of a comment in the texts of a value shows in what is written of it. -/
theorem avoids_of_write {limit : DigitLimit} : ∀ j : Json, Json.All (Json.Legible limit) j →
    ¬closing <:+: Json.write j → Json.All AvoidsClosing j
  | .null, _, _ => trivial
  | .bool _, _, _ => trivial
  | .int _, _, _ => trivial
  | .float _, _, _ => trivial
  | .str _, he, h => fun hs => h (closing_isInfix_writeString he hs)
  | .arr [], _, _ => ⟨trivial, trivial⟩
  | .obj [], _, _ => ⟨fun _ hk => absurd hk List.not_mem_nil, trivial⟩
  | .arr (j :: js), he, h => by
    rw [Json.write] at h
    refine ⟨trivial, avoids_of_write j he.2.1 fun hi => h ?_,
      avoids_of_writeItems js he.2.2 fun hi => h ?_⟩
    · exact List.infix_cons (hi.trans (List.prefix_append _ _).isInfix)
    · exact List.infix_cons (hi.trans (List.suffix_append _ _).isInfix)
  | .obj ((k, j) :: fs), he, h => by
    rw [Json.write] at h
    obtain ⟨hkey, hvalue, hrest⟩ := not_isInfix_field fun hi => h (List.infix_cons hi)
    have hjoined := List.forall_mem_cons.mp he.1.2
    obtain ⟨hkeys, hfields⟩ := avoids_of_writeFields fs hjoined.2 he.2.2 hrest
    refine ⟨List.forall_mem_cons.mpr ⟨fun hc => hkey ?_, hkeys⟩, avoids_of_write j he.2.1 hvalue, hfields⟩
    exact closing_isInfix_writeString hjoined.1 hc

theorem avoids_of_writeItems {limit : DigitLimit} : ∀ js : List Json,
    Json.AllItems (Json.Legible limit) js → ¬closing <:+: Json.writeItems js →
    Json.AllItems AvoidsClosing js
  | [], _, _ => trivial
  | j :: js, he, h => by
    rw [Json.writeItems] at h
    refine ⟨avoids_of_write j he.1 fun hi => h ?_, avoids_of_writeItems js he.2 fun hi => h ?_⟩
    · exact List.infix_cons (List.infix_cons (hi.trans (List.prefix_append _ _).isInfix))
    · exact List.infix_cons (List.infix_cons (hi.trans (List.suffix_append _ _).isInfix))

theorem avoids_of_writeFields {limit : DigitLimit} : ∀ fs : List (CodeText × Json),
    (∀ k ∈ Entries.keys fs, k.IsJoined) → Json.AllFields (Json.Legible limit) fs →
    ¬closing <:+: Json.writeFields fs →
    (∀ k ∈ Entries.keys fs, ¬closing <:+: k.chars) ∧ Json.AllFields AvoidsClosing fs
  | [], _, _, _ => ⟨fun _ hk => absurd hk List.not_mem_nil, trivial⟩
  | (k, j) :: fs, hk, he, h => by
    rw [Json.writeFields] at h
    obtain ⟨hkey, hvalue, hrest⟩ :=
      not_isInfix_field fun hi => h (List.infix_cons (List.infix_cons hi))
    have hjoined := List.forall_mem_cons.mp hk
    obtain ⟨hkeys, hfields⟩ := avoids_of_writeFields fs hjoined.2 he.2 hrest
    refine ⟨List.forall_mem_cons.mpr ⟨fun hc => hkey ?_, hkeys⟩, avoids_of_write j he.1 hvalue, hfields⟩
    exact closing_isInfix_writeString hjoined.1 hc

end

end Triage.Metadata
