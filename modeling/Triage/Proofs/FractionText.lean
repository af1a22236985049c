import Mathlib
import Triage.Proofs.JsonTokens

/-!
# Numbers with a fraction as JSON text

A number with a fraction is read back as one, and its text ends where it was written. This takes that the
shortest digits are not zero where zeros would be put behind them, which in turn takes that a mantissa
has no more than 53 bits. Every number that is read has so few.
-/

namespace Triage

namespace Binary64

/-- Whether a mantissa has its bits. -/
def Fits : Binary64 → Prop
  | .finite _ m _ => m < 2 ^ 53
  | _ => True

section Rounding

variable {num den : Nat} {e g : Int}

lemma inUnits_eq (num den : Nat) (e : Int) :
    inUnits num den e = (num * 2 ^ (-e).toNat, den * 2 ^ e.toNat) := by
  unfold inUnits twoTo
  split_ifs with he
  · rw [Int.toNat_of_nonpos (by omega : -e ≤ 0), pow_zero, Nat.mul_one]
    rfl
  · rw [Int.toNat_of_nonpos (by omega : e ≤ 0), pow_zero, Nat.mul_one]
    rfl

/-- Whether a fraction in units of `2 ^ e` has at most `k` bits. -/
def Below (k num den : Nat) (e : Int) : Prop := num * 2 ^ (-e).toNat < 2 ^ k * (den * 2 ^ e.toNat)

lemma below_of_log (hden : den ≠ 0) (he : (Nat.log2 num : Int) - Nat.log2 den - 52 ≤ e) :
    Below 53 num den e := by
  have hnum : num < 2 ^ (Nat.log2 num + 1) := Nat.lt_log2_self
  have hlog : 2 ^ Nat.log2 den ≤ den := Nat.log2_self_le hden
  have hle : Nat.log2 num + 1 + (-e).toNat ≤ 53 + (Nat.log2 den + e.toNat) := by omega
  calc num * 2 ^ (-e).toNat < 2 ^ (Nat.log2 num + 1) * 2 ^ (-e).toNat :=
        Nat.mul_lt_mul_of_pos_right hnum (by positivity)
    _ = 2 ^ (Nat.log2 num + 1 + (-e).toNat) := (pow_add 2 _ _).symm
    _ ≤ 2 ^ (53 + (Nat.log2 den + e.toNat)) := Nat.pow_le_pow_right (by decide) hle
    _ = 2 ^ 53 * (2 ^ Nat.log2 den * 2 ^ e.toNat) := by rw [pow_add, pow_add]
    _ ≤ 2 ^ 53 * (den * 2 ^ e.toNat) :=
        Nat.mul_le_mul_left _ (Nat.mul_le_mul_right _ hlog)

/-- One bit less at one place is no more bits at the place below and beyond it. -/
lemma Below.of_le {k : Nat} (h : Below k num den g) (he : g - 1 ≤ e) : Below (k + 1) num den e := by
  have hle : (-e).toNat + g.toNat ≤ (-g).toNat + (e.toNat + 1) := by omega
  refine Nat.lt_of_mul_lt_mul_right (a := 2 ^ g.toNat) ?_
  calc num * 2 ^ (-e).toNat * 2 ^ g.toNat = num * 2 ^ ((-e).toNat + g.toNat) := by
        rw [mul_assoc, ← pow_add]
    _ ≤ num * 2 ^ ((-g).toNat + (e.toNat + 1)) :=
        Nat.mul_le_mul_left _ (Nat.pow_le_pow_right (by decide) hle)
    _ = num * 2 ^ (-g).toNat * 2 ^ (e.toNat + 1) := by rw [pow_add, mul_assoc]
    _ < 2 ^ k * (den * 2 ^ g.toNat) * 2 ^ (e.toNat + 1) :=
        Nat.mul_lt_mul_of_pos_right h (by positivity)
    _ = 2 ^ (k + 1) * (den * 2 ^ e.toNat) * 2 ^ g.toNat := by ring

lemma roundDiv_le {n d k : Nat} (h : n < k * d) : roundDiv n d ≤ k := by
  have hd : 0 < d := Nat.pos_of_mul_pos_left (Nat.zero_lt_of_lt h)
  have hq : n / d < k := (Nat.div_lt_iff_lt_mul hd).mpr h
  unfold roundDiv
  dsimp only
  split_ifs
  · omega
  · omega
  · have := Nat.mod_lt (n / d) (by decide : 0 < 2)
    omega

/-- The place of the last bit, as it is guessed from the logarithms and corrected, leaves 53 bits. -/
lemma below_guess (hden : den ≠ 0) {guess : Int}
    (hguess : guess = (Nat.log2 num : Int) - Nat.log2 den - 52) (least : Int) :
    Below 53 num den (max (if (inUnits num den guess).1 < leastMantissa * (inUnits num den guess).2
      then guess - 1 else guess) least) := by
  split_ifs with hsmall
  · rw [inUnits_eq] at hsmall
    exact Below.of_le (g := guess) hsmall (le_max_left _ _)
  · exact below_of_log hden (hguess ▸ le_max_left _ _)

theorem fits_ofRatio (negative : Bool) (num den : Nat) : (ofRatio negative num den).Fits := by
  unfold ofRatio
  split_ifs with hzero
  · exact Nat.pow_pos (by decide)
  · rw [not_or] at hzero
    have hbelow : Below 53 num den _ := below_guess hzero.2 rfl minExponent
    dsimp only
    generalize max _ minExponent = e at hbelow ⊢
    have hround : roundDiv (inUnits num den e).1 (inUnits num den e).2 ≤ 2 ^ 53 := by
      rw [inUnits_eq]
      exact roundDiv_le hbelow
    generalize roundDiv _ _ = m at hround ⊢
    split_ifs with hm hcarried hlarge
    · exact Nat.pow_pos (by decide)
    · trivial
    · exact (by decide : leastMantissa < 2 ^ 53)
    · trivial
    · have htwice : 2 * leastMantissa = 2 ^ 53 := rfl
      exact Nat.lt_of_le_of_ne hround (htwice ▸ hcarried)

theorem fits_ofDecimal (negative : Bool) (digits : Nat) (exponent : Int) :
    (ofDecimal negative digits exponent).Fits := by
  unfold ofDecimal
  dsimp only
  split_ifs
  · exact Nat.pow_pos (by decide)
  · trivial
  · exact fits_ofRatio _ _ _
  · exact fits_ofRatio _ _ _

end Rounding

section Shortest

variable {m : Nat} {e p : Int}

lemma shortestFrom_zero (fuel : Nat) (p : Int) (h : (shortestFrom m e fuel p).1 = 0) :
    (shortestFrom m e fuel p).2 = p - fuel ∧ (onGrid? m e (p - fuel)).getD 0 = 0 := by
  induction fuel generalizing p with
  | zero =>
    rw [Nat.cast_zero, sub_zero]
    exact ⟨rfl, h⟩
  | succ fuel ih =>
    have hnext : (shortestFrom m e fuel (p - 1)).1 = 0 →
        (shortestFrom m e fuel (p - 1)).2 = p - (fuel + 1 : Nat) ∧
          (onGrid? m e (p - (fuel + 1 : Nat))).getD 0 = 0 := by
      have hp : p - 1 - (fuel : Int) = p - (fuel + 1 : Nat) := by push_cast; ring
      rw [← hp]
      exact ih (p - 1)
    rw [shortestFrom] at h ⊢
    cases hgrid : onGrid? m e p with
    | none =>
      rw [hgrid] at h
      exact hnext h
    | some a =>
      rw [hgrid] at h
      dsimp only at h ⊢
      by_cases ha : a = 0
      · rw [if_pos ha] at h ⊢
        exact hnext h
      · rw [if_neg ha] at h
        exact absurd h ha

lemma quartersOver_eq (n k q : Nat) : quartersOver n (k + 2) q = (n * 2 ^ k, 10 ^ q) := by
  have hneg : (-(q : Int)).toNat = 0 := by omega
  simp [quartersOver, twoTo, tenTo, hneg]

/-- On a grid that is finer than the last place of a number, the multiple below the number reads back. -/
lemma reads_below (hm : 0 < m) {q k : Nat} (hfine : 10 ^ q ≤ 2 ^ k) :
    reads m (k + 2) (4 * m * 2 ^ k / 10 ^ q) q = true := by
  have hlow : 4 * m * 2 ^ k / 10 ^ q * 10 ^ q ≤ 4 * m * 2 ^ k := Nat.div_mul_le_self _ _
  have hhigh : 4 * m * 2 ^ k < 4 * m * 2 ^ k / 10 ^ q * 10 ^ q + 10 ^ q :=
    Nat.lt_div_mul_add (Nat.pow_pos (by decide))
  have hrounding : (rounding m (k + 2)).1 + 1 ≤ 4 * m ∧ (rounding m (k + 2)).2.2 = 4 * m + 2 := by
    refine ⟨?_, rfl⟩
    unfold rounding
    dsimp only
    split_ifs <;> omega
  unfold reads
  dsimp only
  generalize rounding m (k + 2) = r at hrounding ⊢
  have hends : r.1 * 2 ^ k < 4 * m * 2 ^ k / 10 ^ q * 10 ^ q ∧
      4 * m * 2 ^ k / 10 ^ q * 10 ^ q < r.2.2 * 2 ^ k := by
    rw [hrounding.2]
    have hstep : (r.1 + 1) * 2 ^ k ≤ 4 * m * 2 ^ k := Nat.mul_le_mul_right _ hrounding.1
    have htop : 4 * m * 2 ^ k < (4 * m + 2) * 2 ^ k :=
      Nat.mul_lt_mul_of_pos_right (by omega) (Nat.pow_pos (by decide))
    rw [Nat.add_mul, Nat.one_mul] at hstep
    omega
  simp only [quartersOver_eq]
  split_ifs
  · simp [hends.1.le, hends.2.le]
  · simp [hends.1, hends.2]

lemma onGrid?_ne_zero (hm : 0 < m) {q k : Nat} (hfine : 10 ^ q ≤ 2 ^ k) :
    (onGrid? m (k + 2) q).getD 0 ≠ 0 := by
  have hreads := reads_below hm hfine
  have hpos : 0 < 4 * m * 2 ^ k / 10 ^ q := by
    refine Nat.div_pos (hfine.trans ?_) (Nat.pow_pos (by decide))
    exact Nat.le_mul_of_pos_left _ (by omega)
  unfold onGrid?
  simp only [quartersOver_eq, hreads]
  generalize 4 * m * 2 ^ k / 10 ^ q = a at hpos ⊢
  cases reads m (k + 2) (a + 1) q with
  | false => exact hpos.ne'
  | true =>
    dsimp only
    split_ifs
    · exact hpos.ne'
    · exact Nat.succ_ne_zero a
    · exact (Nat.add_pos_left hpos _).ne'

/-- The shortest digits of a number are not zero where zeros are put behind them. -/
theorem shortest_ne_zero (hm : 0 < m) (hbits : m < 2 ^ 53) (hlow : 0 < (shortest m e).2)
    (hhigh : (shortest m e).2 < 16) : (shortest m e).1 ≠ 0 := by
  intro hzero
  unfold shortest at hzero hlow hhigh
  obtain ⟨hplace, hgrid⟩ := shortestFrom_zero _ _ hzero
  rw [hplace] at hlow hhigh
  have hlog : Nat.log2 m ≤ 52 := by
    have := (Nat.log2_lt hm.ne').mpr hbits
    omega
  generalize hp : ((Nat.log2 m : Int) + e + 1) * 30103 / 100000 + 1 - (22 : Nat) = p at hlow hhigh hgrid
  -- the last place is beyond `2 ^ (4 * p + 2)`, and sixteen is more than ten
  obtain ⟨q, rfl⟩ : ∃ q : Nat, p = q := ⟨p.toNat, by omega⟩
  obtain ⟨k, rfl⟩ : ∃ k : Nat, e = k + 2 := ⟨(e - 2).toNat, by omega⟩
  have hfine : 10 ^ q ≤ 2 ^ k := by
    calc 10 ^ q ≤ 16 ^ q := Nat.pow_le_pow_left (by decide) q
      _ = 2 ^ (4 * q) := by rw [pow_mul]; norm_num
      _ ≤ 2 ^ k := Nat.pow_le_pow_right (by decide) (by omega)
  exact onGrid?_ne_zero hm hfine hgrid

end Shortest

end Binary64

namespace Json

section Digits

variable {fraction digits rest : List Char}

lemma fractionPart?_append (hne : fraction ≠ []) (hf : ∀ c ∈ fraction, isAsciiDigit c = true)
    (h : StopsDigits rest) : fractionPart? ('.' :: (fraction ++ rest)) = some (fraction, rest) := by
  obtain ⟨d, ds, rfl⟩ := List.exists_cons_of_ne_nil hne
  have hspan := h.span hf
  rw [List.cons_append] at hspan ⊢
  rw [fractionPart?, if_pos ⟨rfl, hf d List.mem_cons_self⟩, hspan.1, hspan.2]

lemma exponentPart?_append (hne : digits ≠ []) (hd : ∀ c ∈ digits, isAsciiDigit c = true)
    {sign : Char} (hsign : sign = '-' ∨ sign = '+') : ∃ n, ∀ rest, StopsDigits rest →
      exponentPart? ('e' :: sign :: (digits ++ rest)) = some (n, rest) := by
  rcases hsign with rfl | rfl
  · exact ⟨_, fun rest h => by simp [exponentPart?, h.span hd, hne]; rfl⟩
  · exact ⟨_, fun rest h => by simp [exponentPart?, h.span hd, hne]; rfl⟩

end Digits

/-- Whether a text of digits is read as a number with a fraction, with a minus sign in front or without
one, whatever follows that cannot extend it. -/
structure IsFraction (text : List Char) : Prop where
  head : ∃ c cs, text = c :: cs ∧ isAsciiDigit c = true
  read : ∀ negative, ∃ x : Binary64, ∀ (limit : DigitLimit) (rest : List Char), EndsValue rest →
    readMagnitude limit negative (text ++ rest) = .ok (.float x, rest)

lemma IsWhole.exists_head {whole : List Char} (hw : IsWhole whole) (more : List Char) :
    ∃ c cs, whole ++ more = c :: cs ∧ isAsciiDigit c = true := by
  rcases hw.head with rfl | ⟨c, cs, rfl, -⟩
  · exact ⟨'0', more, rfl, by decide⟩
  · exact ⟨c, cs ++ more, rfl, hw.digits c List.mem_cons_self⟩

lemma isWhole_zero : IsWhole ['0'] where
  digits := List.forall_mem_singleton.mpr (by decide)
  head := .inl rfl

lemma isFraction_positional {whole fraction : List Char} (hw : IsWhole whole) (hne : fraction ≠ [])
    (hf : ∀ c ∈ fraction, isAsciiDigit c = true) : IsFraction (whole ++ '.' :: fraction) where
  head := hw.exists_head _
  read negative := by
    refine ⟨.ofDecimal negative (Text.numeralIn 10 (whole ++ fraction)) (0 - fraction.length),
      fun limit rest h => ?_⟩
    have hint := integerPart?_append hw (stopsDigits_cons (by decide) (fraction ++ rest) (c := '.'))
    have hfraction := fractionPart?_append hne hf h.stopsDigits
    rw [List.append_assoc, List.cons_append]
    simp only [readMagnitude, hint, hfraction, Option.getD_some, h.exponentPart?, hne, false_and,
      if_false, Option.getD_none]

lemma isFraction_exponent {whole fraction digits : List Char} (hw : IsWhole whole)
    (hf : fraction = [] ∨ ∃ ds, fraction = '.' :: ds ∧ ds ≠ [] ∧ ∀ c ∈ ds, isAsciiDigit c = true)
    {sign : Char} (hsign : sign = '-' ∨ sign = '+') (hne : digits ≠ [])
    (hd : ∀ c ∈ digits, isAsciiDigit c = true) :
    IsFraction (whole ++ fraction ++ 'e' :: sign :: digits) where
  head := by
    rw [List.append_assoc]
    exact hw.exists_head _
  read negative := by
    obtain ⟨n, hexponent⟩ := exponentPart?_append hne hd hsign
    have hstop (rest : List Char) : StopsDigits ('e' :: sign :: (digits ++ rest)) :=
      stopsDigits_cons (by decide) _
    rcases hf with rfl | ⟨ds, rfl, hds, hdigits⟩
    · refine ⟨.ofDecimal negative (Text.numeralIn 10 (whole ++ [])) (n - (0 : Nat)),
        fun limit rest h => ?_⟩
      have hint := integerPart?_append hw (hstop rest)
      have hnone : fractionPart? ('e' :: sign :: (digits ++ rest)) = none := rfl
      simp only [List.append_nil, List.append_assoc, List.cons_append, readMagnitude, hint, hnone,
        Option.getD_none, hexponent rest h.stopsDigits, reduceCtorEq, and_false, if_false,
        Option.getD_some, List.length_nil]
    · refine ⟨.ofDecimal negative (Text.numeralIn 10 (whole ++ ds)) (n - ds.length),
        fun limit rest h => ?_⟩
      have hint := integerPart?_append hw (stopsDigits_cons (c := '.') (by decide)
        (ds ++ 'e' :: sign :: (digits ++ rest)))
      have hfraction := fractionPart?_append hds hdigits (hstop rest)
      simp only [List.append_assoc, List.cons_append, readMagnitude, hint, hfraction,
        Option.getD_some, hexponent rest h.stopsDigits, reduceCtorEq, and_false, if_false]

lemma replicate_digits (n : Nat) : ∀ c ∈ List.replicate n '0', isAsciiDigit c = true := by
  intro c hc
  rw [(List.mem_replicate.mp hc).2]
  decide

lemma isWhole_take {a n : Nat} (hn : 0 < n) : IsWhole ((Text.ofNat a).take n) where
  digits c hc := ofNat_digits a c (List.mem_of_mem_take hc)
  head := by
    obtain ⟨n, rfl⟩ := Nat.exists_eq_succ_of_ne_zero hn.ne'
    rcases Nat.eq_zero_or_pos a with rfl | hpos
    · refine .inl ?_
      have hzero : Text.ofNat 0 = ['0'] := rfl
      rw [hzero, List.take_succ_cons, List.take_nil]
    · obtain ⟨c, cs, hc, hne⟩ := Text.ofNat_eq_cons hpos
      exact .inr ⟨c, cs.take n, by rw [hc, List.take_succ_cons], hne⟩

/-- The decimal text of a number is that of a fraction, unless zeros are put behind a zero. -/
theorem isFraction_decimal {a : Nat} {p : Int} (h : a ≠ 0 ∨ p ≤ 0 ∨ 16 ≤ p) :
    IsFraction (floatText.decimal a p) := by
  have hdigits := ofNat_digits a
  have hpos : 0 < (Text.ofNat a).length := Nat.length_toDigits_pos
  have hone : a = 0 → (Text.ofNat a).length = 1 := by
    rintro rfl
    rfl
  have hleast : floatText.least = -4 := rfl
  have hlimit : floatText.limit = 16 := rfl
  have hexponent : floatText.exponentDigits = 2 := rfl
  unfold FloatText.decimal
  dsimp only
  rw [hleast, hlimit, hexponent]
  by_cases hpositional : -4 ≤ ((Text.ofNat a).length : Int) + p - 1 ∧
      ((Text.ofNat a).length : Int) + p - 1 < 16
  · rw [if_pos hpositional]
    by_cases hsmall : ((Text.ofNat a).length : Int) + p ≤ 0
    · rw [if_pos hsmall]
      have hne : List.replicate (-(((Text.ofNat a).length : Int) + p)).toNat '0' ++ Text.ofNat a ≠ [] :=
        fun hnil => absurd (List.append_eq_nil_iff.mp hnil).2 (List.ne_nil_of_length_pos hpos)
      exact isFraction_positional isWhole_zero hne
        (List.forall_mem_append.mpr ⟨replicate_digits _, hdigits⟩)
    · rw [if_neg hsmall]
      by_cases hlarge : ((Text.ofNat a).length : Int) ≤ (Text.ofNat a).length + p
      · rw [if_pos hlarge]
        have hzeros : a ≠ 0 ∨ List.replicate ((((Text.ofNat a).length : Int) + p).toNat -
            (Text.ofNat a).length) '0' = [] := by
          refine h.imp_right fun hp => ?_
          rw [List.replicate_eq_nil_iff]
          omega
        exact isFraction_positional (isWhole_ofNat_append hzeros (replicate_digits _)) (by simp)
          (by simp; decide)
      · rw [if_neg hlarge]
        have hne : (Text.ofNat a).drop (((Text.ofNat a).length : Int) + p).toNat ≠ [] := by
          rw [Ne, List.drop_eq_nil_iff]
          omega
        exact isFraction_positional (isWhole_take (by omega)) hne
          fun c hc => hdigits c (List.mem_of_mem_drop hc)
  · rw [if_neg hpositional]
    have hfraction : (if (Text.ofNat a).length ≤ 1 then [] else '.' :: (Text.ofNat a).drop 1) = [] ∨
        ∃ ds, (if (Text.ofNat a).length ≤ 1 then [] else '.' :: (Text.ofNat a).drop 1) = '.' :: ds ∧
          ds ≠ [] ∧ ∀ c ∈ ds, isAsciiDigit c = true := by
      by_cases hshort : (Text.ofNat a).length ≤ 1
      · exact .inl (if_pos hshort)
      · refine .inr ⟨_, if_neg hshort, ?_, fun c hc => hdigits c (List.mem_of_mem_drop hc)⟩
        rw [Ne, List.drop_eq_nil_iff]
        exact hshort
    have hsign : (if ((Text.ofNat a).length : Int) + p - 1 < 0 then '-' else '+') = '-' ∨
        (if ((Text.ofNat a).length : Int) + p - 1 < 0 then '-' else '+') = '+' := by
      split_ifs
      · exact .inl rfl
      · exact .inr rfl
    refine isFraction_exponent (isWhole_take (by decide)) hfraction hsign ?_ ?_
    · intro hnil
      exact absurd (List.append_eq_nil_iff.mp hnil).2 Nat.toDigits_ne_nil
    · exact List.forall_mem_append.mpr ⟨replicate_digits _, ofNat_digits _⟩

end Json

end Triage
