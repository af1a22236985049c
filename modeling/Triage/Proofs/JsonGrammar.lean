import Mathlib
import Triage.Proofs.JsonTokens

/-!
# The grammar that the reader follows

The reader bounds its recursion by fuel. What it reads is a relation between a piece of JSON, the text
that it was read from and what follows it, in which no fuel is left. So what holds of all that is read is
shown by induction on how it was read.
-/

namespace Triage.Json

/-- Whether a character outside of strings neither opens nor closes anything there. An angle bracket
never stands there. -/
def Plain (c : Char) : Prop := c ≠ '"' ∧ c ≠ '{' ∧ c ≠ '}' ∧ c ≠ '<'

instance (c : Char) : Decidable (Plain c) := inferInstanceAs (Decidable (_ ∧ _))

lemma plain_of_isAsciiDigit {c : Char} (hc : isAsciiDigit c = true) : Plain c := by
  refine ⟨?_, ?_, ?_, ?_⟩
  all_goals
    rintro rfl
    exact absurd hc (by decide)

section Tokens

lemma span_digits (cs : List Char) :
    cs = cs.takeWhile isAsciiDigit ++ cs.dropWhile isAsciiDigit ∧
      ∀ c ∈ cs.takeWhile isAsciiDigit, isAsciiDigit c = true :=
  ⟨List.takeWhile_append_dropWhile.symm, fun _ hc => List.mem_takeWhile_imp hc⟩

lemma integerPart?_eq_some {cs whole rest : List Char} (h : integerPart? cs = some (whole, rest)) :
    cs = whole ++ rest ∧ whole ≠ [] ∧ ∀ c ∈ whole, isAsciiDigit c = true := by
  unfold integerPart? at h
  cases cs with
  | nil => cases h
  | cons c cs =>
    dsimp only at h
    split_ifs at h with hzero hdigit
    · cases h
      exact ⟨by rw [hzero, List.singleton_append], by simp, by simp; decide⟩
    · cases h
      obtain ⟨heq, hdigits⟩ := span_digits (c :: cs)
      exact ⟨heq, by simp [hdigit], hdigits⟩

lemma fractionPart?_eq_some {cs fraction rest : List Char}
    (h : fractionPart? cs = some (fraction, rest)) :
    cs = '.' :: (fraction ++ rest) ∧ fraction ≠ [] ∧ ∀ c ∈ fraction, isAsciiDigit c = true := by
  unfold fractionPart? at h
  split at h
  · rename_i p d more
    split_ifs at h with hpoint
    obtain ⟨rfl, hd⟩ := hpoint
    cases h
    obtain ⟨heq, hdigits⟩ := span_digits (d :: more)
    exact ⟨by rw [← heq], by simp [hd], hdigits⟩
  · cases h

/-- The text behind the letter of an exponent, without its sign. -/
lemma sign_append (cs : List Char) :
    ∃ sign, cs = sign ++ (if cs.head? = some '-' ∨ cs.head? = some '+' then cs.drop 1 else cs) ∧
      ∀ c ∈ sign, Plain c := by
  split_ifs with hsign
  · cases cs with
    | nil => exact ⟨[], rfl, by simp⟩
    | cons c cs =>
      refine ⟨[c], rfl, ?_⟩
      rw [List.forall_mem_singleton]
      rcases hsign with hsign | hsign
      · obtain rfl := Option.some.inj hsign
        decide
      · obtain rfl := Option.some.inj hsign
        decide
  · exact ⟨[], rfl, by simp⟩

lemma exponentPart?_eq_some {cs rest : List Char} {e : Int} (h : exponentPart? cs = some (e, rest)) :
    ∃ front, cs = front ++ rest ∧ ∀ c ∈ front, Plain c := by
  unfold exponentPart? at h
  cases cs with
  | nil => cases h
  | cons c cs =>
    dsimp only at h
    by_cases hletter : c = 'e' ∨ c = 'E'
    · rw [if_pos hletter] at h
      obtain ⟨sign, hcs, hsign⟩ := sign_append cs
      generalize (if cs.head? = some '-' ∨ cs.head? = some '+' then cs.drop 1 else cs) = digits at h hcs
      obtain ⟨hdigits, hplain⟩ := span_digits digits
      by_cases hnone : digits.takeWhile isAsciiDigit = []
      · rw [if_pos hnone] at h
        cases h
      · rw [if_neg hnone] at h
        obtain ⟨-, rfl⟩ := Prod.mk.inj (Option.some.inj h)
        refine ⟨c :: (sign ++ digits.takeWhile isAsciiDigit), ?_, ?_⟩
        · rw [List.cons_append, List.append_assoc, ← hdigits, ← hcs]
        · rw [List.forall_mem_cons, List.forall_mem_append]
          refine ⟨?_, hsign, fun d hd => plain_of_isAsciiDigit (hplain d hd)⟩
          rcases hletter with rfl | rfl <;> decide
    · rw [if_neg hletter] at h
      cases h

lemma fractionPart?_plain (cs : List Char) :
    ∃ front, cs = front ++ ((fractionPart? cs).getD ([], cs)).2 ∧ ∀ c ∈ front, Plain c := by
  cases hfraction : fractionPart? cs with
  | none => exact ⟨[], rfl, by simp⟩
  | some p =>
    obtain ⟨hcs, -, hdigits⟩ := fractionPart?_eq_some hfraction
    refine ⟨'.' :: p.1, hcs, ?_⟩
    rw [List.forall_mem_cons]
    exact ⟨by decide, fun c hc => plain_of_isAsciiDigit (hdigits c hc)⟩

/-- A number that is read is an integer within the limit, or it is a decimal. -/
lemma readMagnitude_cases {limit : DigitLimit} {negative : Bool} {cs rest : List Char} {j : Json}
    (h : readMagnitude limit negative cs = .ok (j, rest)) :
    ∃ whole afterWhole, integerPart? cs = some (whole, afterWhole) ∧
      (rest = afterWhole ∧ limit.textFault? whole.length = none ∧
          j = .int (if negative then -(Text.numeralIn 10 whole : Int) else Text.numeralIn 10 whole) ∨
        (∃ front, afterWhole = front ++ rest ∧ ∀ c ∈ front, Plain c) ∧
          ∃ digits scale, j = .float (.ofDecimal negative digits scale)) := by
  unfold readMagnitude at h
  cases hwhole : integerPart? cs with
  | none =>
    rw [hwhole] at h
    cases h
  | some p =>
    obtain ⟨whole, afterWhole⟩ := p
    refine ⟨whole, afterWhole, rfl, ?_⟩
    obtain ⟨front, hfront, hplain⟩ := fractionPart?_plain afterWhole
    rw [hwhole] at h
    dsimp only at h
    generalize (fractionPart? afterWhole).getD ([], afterWhole) = fraction at h hfront
    cases hexponent : exponentPart? fraction.2 with
    | none =>
      rw [hexponent] at h
      dsimp only at h
      by_cases hint : fraction.1 = []
      · rw [if_pos ⟨hint, rfl⟩] at h
        cases hfault : limit.textFault? whole.length with
        | some fault =>
          rw [hfault] at h
          cases h
        | none =>
          rw [hfault] at h
          obtain ⟨rfl, rfl⟩ := Prod.mk.inj (Except.ok.inj h)
          exact .inl ⟨rfl, rfl, rfl⟩
      · rw [if_neg fun hboth => hint hboth.1] at h
        obtain ⟨rfl, rfl⟩ := Prod.mk.inj (Except.ok.inj h)
        exact .inr ⟨⟨front, hfront, hplain⟩, _, _, rfl⟩
    | some q =>
      obtain ⟨e, left⟩ := q
      rw [hexponent] at h
      dsimp only at h
      rw [if_neg fun hboth => Option.some_ne_none _ hboth.2] at h
      obtain ⟨rfl, rfl⟩ := Prod.mk.inj (Except.ok.inj h)
      obtain ⟨tail, htail, hplain'⟩ := exponentPart?_eq_some hexponent
      refine .inr ⟨⟨front ++ tail, ?_, List.forall_mem_append.mpr ⟨hplain, hplain'⟩⟩, _, _, rfl⟩
      rw [List.append_assoc, ← htail, ← hfront]

/-- What is read of a number opens and closes nothing. -/
lemma readMagnitude_plain {limit : DigitLimit} {negative : Bool} {cs rest : List Char} {j : Json}
    (h : readMagnitude limit negative cs = .ok (j, rest)) :
    ∃ front, cs = front ++ rest ∧ ∀ c ∈ front, Plain c := by
  obtain ⟨whole, afterWhole, hwhole, hcases⟩ := readMagnitude_cases h
  obtain ⟨hcs, -, hdigits⟩ := integerPart?_eq_some hwhole
  have hplain : ∀ c ∈ whole, Plain c := fun c hc => plain_of_isAsciiDigit (hdigits c hc)
  rcases hcases with ⟨rfl, -, -⟩ | ⟨⟨front, rfl, hfront⟩, -⟩
  · exact ⟨whole, hcs, hplain⟩
  · exact ⟨whole ++ front, by rw [hcs, List.append_assoc], List.forall_mem_append.mpr ⟨hplain, hfront⟩⟩

lemma readConstant?_eq_some {cs rest : List Char} {j : Json} (h : readConstant? cs = some (j, rest)) :
    ∃ word, (word, j) ∈ constants ∧ cs = word ++ rest := by
  obtain ⟨w, hw, hfound⟩ := List.exists_of_findSome?_eq_some h
  by_cases hprefix : w.1.isPrefixOf cs = true
  · rw [if_pos hprefix] at hfound
    obtain ⟨rfl, rfl⟩ := Prod.mk.inj (Option.some.inj hfound)
    obtain ⟨more, rfl⟩ := List.isPrefixOf_iff_prefix.mp hprefix
    exact ⟨w.1, hw, by rw [List.drop_left]⟩
  · rw [if_neg hprefix] at hfound
    cases hfound

lemma readConstant?_plain {cs rest : List Char} {j : Json} (h : readConstant? cs = some (j, rest)) :
    ∃ word, cs = word ++ rest ∧ ∀ c ∈ word, Plain c := by
  obtain ⟨word, hword, rfl⟩ := readConstant?_eq_some h
  have hplain : ∀ w ∈ constants, ∀ c ∈ w.1, Plain c := by
    simp [constants, Plain]
  exact ⟨word, rfl, hplain _ hword⟩

end Tokens

/-- What the reader can take off the front of a text: one value, the items of an array up to its closing
bracket, or the fields of an object up to its closing brace. -/
inductive Piece where
  | value (j : Json)
  | items (js : List Json)
  | fields (fs : List (CodeText × Json))

/-- The reader's grammar without its fuel: a piece at the front of a text, and what follows it. -/
inductive Parsed (limit : DigitLimit) : Piece → List Char → List Char → Prop where
  | str {s : CodeText} {body rest : List Char} : readString body = .ok (s, rest) →
      Parsed limit (.value (.str s)) ('"' :: body) rest
  | constant {j : Json} {cs rest : List Char} : readConstant? cs = some (j, rest) →
      Parsed limit (.value j) cs rest
  | positive {j : Json} {cs rest : List Char} : readMagnitude limit false cs = .ok (j, rest) →
      Parsed limit (.value j) cs rest
  | negative {j : Json} {cs rest : List Char} : readMagnitude limit true cs = .ok (j, rest) →
      Parsed limit (.value j) ('-' :: cs) rest
  | emptyArr {body rest : List Char} : skipSpace body = ']' :: rest →
      Parsed limit (.value (.arr [])) ('[' :: body) rest
  | arr {js : List Json} {body rest : List Char} : Parsed limit (.items js) (skipSpace body) rest →
      Parsed limit (.value (.arr js)) ('[' :: body) rest
  | emptyObj {body rest : List Char} : skipSpace body = '}' :: rest →
      Parsed limit (.value (.obj [])) ('{' :: body) rest
  | obj {fs : List (CodeText × Json)} {body rest : List Char} :
      Parsed limit (.fields fs) (skipSpace body) rest →
      Parsed limit (.value (.obj (Entries.ofPairs fs))) ('{' :: body) rest
  | lastItem {j : Json} {cs more rest : List Char} : Parsed limit (.value j) cs more →
      skipSpace more = ']' :: rest → Parsed limit (.items [j]) cs rest
  | nextItem {j : Json} {js : List Json} {cs more next rest : List Char} :
      Parsed limit (.value j) cs more → skipSpace more = ',' :: next →
      Parsed limit (.items js) (skipSpace next) rest → Parsed limit (.items (j :: js)) cs rest
  | lastField {k : CodeText} {j : Json} {keyText afterKey valueText more rest : List Char} :
      readString keyText = .ok (k, afterKey) → skipSpace afterKey = ':' :: valueText →
      Parsed limit (.value j) (skipSpace valueText) more → skipSpace more = '}' :: rest →
      Parsed limit (.fields [(k, j)]) ('"' :: keyText) rest
  | nextField {k : CodeText} {j : Json} {fs : List (CodeText × Json)}
      {keyText afterKey valueText more next rest : List Char} :
      readString keyText = .ok (k, afterKey) → skipSpace afterKey = ':' :: valueText →
      Parsed limit (.value j) (skipSpace valueText) more → skipSpace more = ',' :: next →
      Parsed limit (.fields fs) (skipSpace next) rest →
      Parsed limit (.fields ((k, j) :: fs)) ('"' :: keyText) rest

section Reader

variable {limit : DigitLimit}

lemma map_eq_ok {ε α β : Type} {x : Except ε α} {f : α → β} {b : β} (h : x.map f = .ok b) :
    ∃ a, x = .ok a ∧ f a = b := by
  cases x with
  | error e => cases h
  | ok a => exact ⟨a, rfl, Except.ok.inj h⟩

mutual

theorem parsed_value : ∀ {fuel : Nat} {cs rest : List Char} {j : Json},
    value limit fuel cs = .ok (j, rest) → Parsed limit (.value j) cs rest
  | 0, _, _, _, h => by cases h
  | fuel + 1, [], _, _, h => by cases h
  | fuel + 1, c :: cs, rest, j, h => by
    rw [value] at h
    split_ifs at h with hquote hbracket hbrace hminus
    · obtain ⟨⟨s, left⟩, hread, heq⟩ := map_eq_ok h
      cases heq
      exact hquote ▸ .str hread
    · subst hbracket
      split at h
      · rename_i left hskip
        cases h
        exact .emptyArr hskip
      · obtain ⟨⟨js, left⟩, hitems, heq⟩ := map_eq_ok h
        cases heq
        exact .arr (parsed_items hitems)
    · subst hbrace
      split at h
      · rename_i left hskip
        cases h
        exact .emptyObj hskip
      · obtain ⟨⟨fs, left⟩, hfields, heq⟩ := map_eq_ok h
        cases heq
        exact .obj (parsed_fields hfields)
    · split at h
      · rename_i r hconstant
        cases h
        exact .constant hconstant
      · subst hminus
        exact .negative h
    · split at h
      · rename_i r hconstant
        cases h
        exact .constant hconstant
      · exact .positive h

theorem parsed_items : ∀ {fuel : Nat} {cs rest : List Char} {js : List Json},
    items limit fuel cs = .ok (js, rest) → Parsed limit (.items js) cs rest
  | 0, _, _, _, h => by cases h
  | fuel + 1, cs, rest, js, h => by
    rw [items] at h
    split at h
    · cases h
    · rename_i j more hvalue
      split at h
      · rename_i left hskip
        cases h
        exact .lastItem (parsed_value hvalue) hskip
      · rename_i next hskip
        obtain ⟨⟨js, left⟩, hitems, heq⟩ := map_eq_ok h
        cases heq
        exact .nextItem (parsed_value hvalue) hskip (parsed_items hitems)
      · cases h

theorem parsed_fields : ∀ {fuel : Nat} {cs rest : List Char} {fs : List (CodeText × Json)},
    fields limit fuel cs = .ok (fs, rest) → Parsed limit (.fields fs) cs rest
  | 0, _, _, _, h => by cases h
  | fuel + 1, cs, rest, fs, h => by
    rw [fields.eq_def] at h
    dsimp only at h
    split at h
    · split at h
      · cases h
      · rename_i k afterKey hkey
        split at h
        · rename_i valueText hcolon
          split at h
          · cases h
          · rename_i j more hvalue
            split at h
            · rename_i left hskip
              cases h
              exact .lastField hkey hcolon (parsed_value hvalue) hskip
            · rename_i next hskip
              obtain ⟨⟨fs, left⟩, hfields, heq⟩ := map_eq_ok h
              cases heq
              exact .nextField hkey hcolon (parsed_value hvalue) hskip (parsed_fields hfields)
            · cases h
        · cases h
    · cases h

end

end Reader

end Triage.Json
