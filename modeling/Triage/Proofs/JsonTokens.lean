import Mathlib
import Triage.Json.Printer
import Triage.Json.Reader
import Triage.Proofs.TextRuns

/-!
# Numerals and strings of JSON

What the printer writes for one integer or one string, the reader takes back whole: it stops where
the token ends and gives the value the token was written for. The halves of surrogate pairs that
stand for one character are put together again.
-/

namespace Triage

namespace DigitLimit

/-- Whether an integer's digits stay within the limit. -/
def admits (limit : DigitLimit) (n : Int) : Bool :=
  (limit.textFault? (Text.ofNat n.natAbs).length).isNone

@[simp] lemma admits_none (n : Int) : admits none n = true := rfl

lemma textFault?_eq_none {limit : DigitLimit} {n : Int} (h : limit.admits n = true) :
    limit.textFault? (Text.ofNat n.natAbs).length = none :=
  Option.isNone_iff_eq_none.mp h

lemma numberFault?_eq_none {limit : DigitLimit} {n : Int} (h : limit.admits n = true) :
    limit.numberFault? n = none := by
  have hf := textFault?_eq_none h
  cases limit with
  | none => rfl
  | some most =>
    have hle : (Text.ofNat n.natAbs).length ≤ most := by
      by_contra hlt
      simp [textFault?, Nat.lt_of_not_le hlt] at hf
    have hpos : 0 < most := Nat.lt_of_lt_of_le Nat.length_toDigits_pos hle
    have hn : n.natAbs < 10 ^ most := (Nat.length_toDigits_le_iff (by decide) hpos).mp hle
    simp [numberFault?, hn]

end DigitLimit

namespace Text

lemma isAsciiDigit_of_mem_ofNat {n : Nat} {c : Char} (h : c ∈ ofNat n) :
    Json.isAsciiDigit c = true := by
  have hd := isDigit_of_mem_ofNat h
  simpa [Char.isDigit, Json.isAsciiDigit, UInt32.le_iff_toNat_le] using hd

lemma asciiDigit?_of_isAsciiDigit {c : Char} (h : Json.isAsciiDigit c = true) :
    asciiDigit? c = some (c.toNat - 48) := by
  have hr : (decide (48 ≤ c.toNat) && decide (c.toNat ≤ 57)) = true := h
  simp only [asciiDigit?, hr, if_true]

lemma numeralIn_ten {cs : List Char} (h : ∀ c ∈ cs, Json.isAsciiDigit c = true) :
    numeralIn 10 cs = Nat.ofDigitChars 10 cs 0 := by
  unfold numeralIn
  rw [Nat.ofDigitChars_eq_foldl]
  apply List.foldl_ext
  intro n c hc
  rw [asciiDigit?_of_isAsciiDigit (h c hc)]
  rfl

theorem numeralIn_ofNat (n : Nat) : numeralIn 10 (ofNat n) = n := by
  rw [numeralIn_ten fun c hc => isAsciiDigit_of_mem_ofNat hc]
  exact Nat.ofDigitChars_ten_toDigits

lemma ofNat_eq_cons {n : Nat} (hn : 0 < n) : ∃ c cs, ofNat n = c :: cs ∧ c ≠ '0' := by
  induction n using Nat.strong_induction_on with
  | _ n ih =>
    unfold ofNat at ih ⊢
    rw [Nat.toDigits_eq_if (by decide)]
    by_cases hlt : n < 10
    · refine ⟨_, [], if_pos hlt, ?_⟩
      intro h0
      have := congrArg Char.toNat h0
      rw [Nat.toNat_digitChar_of_lt_ten hlt] at this
      simp only [Char.reduceToNat] at this
      omega
    · obtain ⟨c, cs, hc, hne⟩ := ih (n / 10) (by omega) (by omega)
      rw [if_neg hlt, hc]
      exact ⟨c, cs ++ _, rfl, hne⟩

end Text

namespace Json

/-- What may follow a value inside or behind another one. -/
def EndsValue (rest : List Char) : Prop :=
  ∀ c ∈ rest.head?, c = ',' ∨ c = ']' ∨ c = '}'

@[simp] lemma endsValue_nil : EndsValue [] := by simp [EndsValue]

lemma endsValue_cons {c : Char} (rest : List Char) (h : c = ',' ∨ c = ']' ∨ c = '}') :
    EndsValue (c :: rest) := by
  intro d hd
  obtain rfl : c = d := by simpa using hd
  exact h

/-- A text that begins with no digit. -/
def StopsDigits (rest : List Char) : Prop := ∀ c ∈ rest.head?, isAsciiDigit c = false

lemma EndsValue.stopsDigits {rest : List Char} (h : EndsValue rest) : StopsDigits rest := by
  intro c hc
  rcases h c hc with rfl | rfl | rfl <;> decide

lemma stopsDigits_cons {c : Char} (hc : isAsciiDigit c = false) (rest : List Char) :
    StopsDigits (c :: rest) := Text.stops_cons hc

section Digits

variable {whole digits rest : List Char}

lemma StopsDigits.span (h : StopsDigits rest) (hdigits : ∀ c ∈ digits, isAsciiDigit c = true) :
    (digits ++ rest).takeWhile isAsciiDigit = digits ∧
      (digits ++ rest).dropWhile isAsciiDigit = rest :=
  ⟨Text.takeWhile_eq_of_stops hdigits h, Text.dropWhile_eq_of_stops hdigits h⟩

/-- Digits that make the integer part of a number. -/
structure IsWhole (whole : List Char) : Prop where
  digits : ∀ c ∈ whole, isAsciiDigit c = true
  head : whole = ['0'] ∨ ∃ c cs, whole = c :: cs ∧ c ≠ '0'

lemma integerPart?_append (hw : IsWhole whole) (h : StopsDigits rest) :
    integerPart? (whole ++ rest) = some (whole, rest) := by
  rcases hw.head with rfl | ⟨c, cs, rfl, hc⟩
  · rfl
  · have hspan := h.span hw.digits
    rw [List.cons_append] at hspan ⊢
    rw [integerPart?, if_neg hc, if_pos (hw.digits c List.mem_cons_self), hspan.1, hspan.2]

end Digits

lemma ofNat_digits (n : Nat) : ∀ c ∈ Text.ofNat n, isAsciiDigit c = true :=
  fun _ hc => Text.isAsciiDigit_of_mem_ofNat hc

/-- A number's digits make an integer part with more digits behind them, unless the number is zero. -/
lemma isWhole_ofNat_append {a : Nat} {more : List Char} (ha : a ≠ 0 ∨ more = [])
    (hmore : ∀ c ∈ more, isAsciiDigit c = true) : IsWhole (Text.ofNat a ++ more) where
  digits := List.forall_mem_append.mpr ⟨ofNat_digits a, hmore⟩
  head := by
    rcases Nat.eq_zero_or_pos a with rfl | hpos
    · obtain rfl := ha.resolve_left fun h => h rfl
      exact .inl rfl
    · obtain ⟨c, cs, hc, hne⟩ := Text.ofNat_eq_cons hpos
      exact .inr ⟨c, cs ++ more, by rw [hc, List.cons_append], hne⟩

lemma EndsValue.fractionPart? {rest : List Char} (h : EndsValue rest) :
    fractionPart? rest = none := by
  match rest with
  | [] => rfl
  | [_] => rfl
  | c :: d :: cs =>
    have hc : c ≠ '.' := by rcases h c rfl with rfl | rfl | rfl <;> decide
    simp [Json.fractionPart?, hc]

lemma EndsValue.exponentPart? {rest : List Char} (h : EndsValue rest) :
    exponentPart? rest = none := by
  cases rest with
  | nil => rfl
  | cons c cs =>
    have hc : ¬(c = 'e' ∨ c = 'E') := by rcases h c rfl with rfl | rfl | rfl <;> decide
    simp only [Json.exponentPart?, hc, if_false]

lemma integerPart?_ofNat (n : Nat) {rest : List Char} (h : EndsValue rest) :
    integerPart? (Text.ofNat n ++ rest) = some (Text.ofNat n, rest) := by
  have hwhole := isWhole_ofNat_append (a := n) (.inr rfl) (by simp)
  rw [List.append_nil] at hwhole
  exact integerPart?_append hwhole h.stopsDigits

theorem readMagnitude_ofNat {limit : DigitLimit} {n : Nat} (negative : Bool) {rest : List Char}
    (hn : limit.admits n = true) (h : EndsValue rest) :
    readMagnitude limit negative (Text.ofNat n ++ rest) =
      .ok (.int (if negative then -(n : Int) else n), rest) := by
  have hfault : limit.textFault? (Text.ofNat n).length = none := DigitLimit.textFault?_eq_none hn
  simp only [readMagnitude, integerPart?_ofNat n h, h.fractionPart?, Option.getD_none,
    h.exponentPart?, and_self, if_true, hfault, Text.numeralIn_ofNat]

lemma asciiDigit?_hexDigit {n : Nat} (hn : n < 16) : Text.asciiDigit? (hexDigit n) = some n := by
  have hall : ∀ m : Fin 16, Text.asciiDigit? (hexDigit m) = some m.val := by decide
  exact hall ⟨n, hn⟩

lemma hex4?_hexDigit {n : Nat} (hn : n < 0x10000) :
    hex4? (hexDigit (n / 4096 % 16)) (hexDigit (n / 256 % 16)) (hexDigit (n / 16 % 16))
      (hexDigit (n % 16)) = some n := by
  simp only [hex4?, asciiDigit?_hexDigit (Nat.mod_lt _ (by decide : 0 < 16)), Option.bind_eq_bind,
    Option.bind_some, Option.pure_def]
  congr 1
  omega

/-- A code point put in front of the points that were read. -/
def consPoint (p : CodePoint) (r : List CodePoint × List Char) : List CodePoint × List Char :=
  (p :: r.1, r.2)

lemma points_escapeUnit {n : Nat} {p : CodePoint} (hn : n < 0x10000)
    (hp : CodePoint.ofCode? n = some p) (rest : List Char) :
    points (escapeUnit n ++ rest) = (points rest).map (consPoint p) := by
  simp only [escapeUnit, List.cons_append, List.nil_append]
  rw [points, if_neg (by decide), if_pos rfl]
  simp only [if_true, hex4?_hexDigit hn, Option.bind_some, hp]
  cases points rest <;> rfl

lemma points_escaped {e s : Char} (he : e ≠ 'u') (hs : simpleEscape? e = some s)
    (rest : List Char) : points ('\\' :: e :: rest) = (points rest).map (consPoint (.char s)) := by
  rw [points.eq_def]
  simp only [Char.reduceEq, if_false, if_true, he, hs]
  cases points rest <;> rfl

lemma ofCode?_half {n : Nat} (h : n < 2048) :
    CodePoint.ofCode? (0xD800 + n) = some (.half ⟨n, h⟩) := by
  have hc : 0xD800 ≤ 0xD800 + n ∧ 0xD800 + n - 0xD800 < 2048 := by omega
  rw [CodePoint.ofCode?, dif_pos hc]
  simp

lemma ofCode?_toNat (c : Char) : CodePoint.ofCode? c.toNat = some (.char c) := by
  have hv : c.toNat.isValidChar := c.valid
  have hc : ¬(0xD800 ≤ c.toNat ∧ c.toNat - 0xD800 < 2048) := by
    rcases hv with h | h <;> omega
  rw [CodePoint.ofCode?, dif_neg hc, if_pos hv, Char.ofNat_toNat]

lemma toNat_lt (c : Char) : c.toNat < 0x110000 := by
  have hv : c.toNat.isValidChar := c.valid
  rcases hv with h | h <;> omega

/-- The code points that a character's escape names: beyond the first 65536 codes it is written as
two halves. -/
def escapedPoints (c : Char) : List CodePoint :=
  if c.toNat < 0x10000 then [.char c]
  else
    have := toNat_lt c
    [.half ⟨(c.toNat - 0x10000) / 0x400, by omega⟩,
      .half ⟨0x400 + (c.toNat - 0x10000) % 0x400, by omega⟩]

lemma points_escapeChar (c : Char) (rest : List Char) :
    points (escapeChar c ++ rest) =
      (points rest).map fun r => (escapedPoints c ++ r.1, r.2) := by
  unfold escapeChar
  split_ifs with h1 h2 h3 h4 h5 h6 h7 h8 h9
  · subst h1
    exact points_escaped (by decide) rfl rest
  · subst h2
    exact points_escaped (by decide) rfl rest
  · subst h3
    exact points_escaped (by decide) rfl rest
  · subst h4
    exact points_escaped (by decide) rfl rest
  · subst h5
    exact points_escaped (by decide) rfl rest
  · subst h6
    exact points_escaped (by decide) rfl rest
  · subst h7
    exact points_escaped (by decide) rfl rest
  · have hlt : c.toNat < 0x10000 := by omega
    have hge : ¬c.toNat < 32 := by omega
    rw [escapedPoints, if_pos hlt, List.singleton_append, points.eq_def]
    simp only [h1, h2, hge, if_false]
    rfl
  · rw [points_escapeUnit h9 (ofCode?_toNat c), escapedPoints, if_pos h9]
    rfl
  · have hlt := toNat_lt c
    rw [List.append_assoc, points_escapeUnit (by omega) (ofCode?_half (by omega)),
      Nat.add_assoc 0xD800 0x400, points_escapeUnit (by omega) (ofCode?_half (by omega)), escapedPoints,
      if_neg h9, Option.map_map]
    rfl

/-- The code points that the escapes of a code point name. -/
def spelledPoints : CodePoint → List CodePoint
  | .char c => escapedPoints c
  | .half n => [.half n]

lemma points_escapePoint (p : CodePoint) (rest : List Char) :
    points (escapePoint p ++ rest) = (points rest).map fun r => (spelledPoints p ++ r.1, r.2) := by
  cases p with
  | char c => exact points_escapeChar c rest
  | half n =>
    have hlt : 0xD800 + n.val < 0x10000 := by omega
    exact points_escapeUnit hlt (ofCode?_half n.isLt) rest

lemma points_spelled (ps : List CodePoint) (rest : List Char) :
    points (ps.flatMap escapePoint ++ '"' :: rest) = some (ps.flatMap spelledPoints, rest) := by
  induction ps with
  | nil =>
    rw [List.flatMap_nil, List.nil_append, points.eq_def]
    exact if_pos rfl
  | cons p ps ih =>
    rw [List.flatMap_cons, List.append_assoc, points_escapePoint, ih]
    rfl

lemma joinPairs_char (c : Char) (ps : List CodePoint) :
    CodePoint.joinPairs (.char c :: ps) = .char c :: CodePoint.joinPairs ps := by
  cases ps <;> rfl

lemma joinPairs_halves {m n : Nat} {hm : m < 2048} {hn : n < 2048} (h : m < 1024 ∧ 1024 ≤ n)
    (ps : List CodePoint) :
    CodePoint.joinPairs (.half ⟨m, hm⟩ :: .half ⟨n, hn⟩ :: ps) =
      .char (Char.ofNat (0x10000 + m * 1024 + (n - 1024))) :: CodePoint.joinPairs ps := by
  simp only [CodePoint.joinPairs, CodePoint.pair?, if_pos h]

lemma joinPairs_escapedPoints (c : Char) (ps : List CodePoint) :
    CodePoint.joinPairs (escapedPoints c ++ ps) = .char c :: CodePoint.joinPairs ps := by
  unfold escapedPoints
  split_ifs with h
  · exact joinPairs_char c ps
  · have hlt := toNat_lt c
    have hpair : (c.toNat - 0x10000) / 0x400 < 1024 ∧
        1024 ≤ 0x400 + (c.toNat - 0x10000) % 0x400 := by omega
    have hc : 0x10000 + (c.toNat - 0x10000) / 0x400 * 1024 +
        (0x400 + (c.toNat - 0x10000) % 0x400 - 1024) = c.toNat := by omega
    rw [List.cons_append, List.cons_append, List.nil_append, joinPairs_halves hpair, hc,
      Char.ofNat_toNat]

lemma joinPairs_cons_cons {p q : CodePoint} (h : CodePoint.pair? p q = none) (ps : List CodePoint) :
    CodePoint.joinPairs (p :: q :: ps) = p :: CodePoint.joinPairs (q :: ps) := by
  simp only [CodePoint.joinPairs, h]

/-- A first half makes no pair with the escapes of a code point with which it makes none itself: the
escapes of a character begin with a first half as well. -/
lemma pair?_spelledPoints {n : Fin 2048} {q : CodePoint} (h : CodePoint.pair? (.half n) q = none) :
    ∃ p ps, spelledPoints q = p :: ps ∧ CodePoint.pair? (.half n) p = none := by
  cases q with
  | half m => exact ⟨.half m, [], rfl, h⟩
  | char c =>
    have hspelled : spelledPoints (.char c) = escapedPoints c := rfl
    rw [hspelled, escapedPoints]
    split_ifs with hc
    · exact ⟨.char c, [], rfl, rfl⟩
    · refine ⟨_, _, rfl, ?_⟩
      have hlt := toNat_lt c
      have hfirst : ¬1024 ≤ (c.toNat - 0x10000) / 0x400 := by omega
      simp only [CodePoint.pair?, hfirst, and_false, if_false]

/-- A text without pairs of halves is put together again from the escapes of its code points. -/
lemma joinPairs_spelled {ps : List CodePoint} (h : CodePoint.joinPairs ps = ps) :
    CodePoint.joinPairs (ps.flatMap spelledPoints) = ps := by
  induction ps with
  | nil => rfl
  | cons p ps ih =>
    cases p with
    | char c =>
      rw [joinPairs_char, List.cons.injEq] at h
      rw [List.flatMap_cons, spelledPoints, joinPairs_escapedPoints, ih h.2]
    | half n =>
      cases ps with
      | nil => rfl
      | cons q ps =>
        have hpair : CodePoint.pair? (.half n) q = none := by
          cases hq : CodePoint.pair? (.half n) q with
          | none => rfl
          | some c => simp [CodePoint.joinPairs, hq] at h
        rw [joinPairs_cons_cons hpair, List.cons.injEq] at h
        obtain ⟨p, more, hspelled, hnone⟩ := pair?_spelledPoints hpair
        have hrest : (q :: ps).flatMap spelledPoints = p :: (more ++ ps.flatMap spelledPoints) := by
          rw [List.flatMap_cons, hspelled, List.cons_append]
        have ih := ih h.2
        rw [hrest] at ih
        have hhalf : spelledPoints (.half n) = [.half n] := rfl
        rw [List.flatMap_cons, hhalf, hrest, List.singleton_append, joinPairs_cons_cons hnone, ih]

lemma eq_ofList_of_hasHalf {s : CodeText} (h : s.hasHalf = false) : ∃ cs, s = .ofList cs := by
  obtain ⟨ps⟩ := s
  induction ps with
  | nil => exact ⟨[], rfl⟩
  | cons p ps ih =>
    simp only [CodeText.hasHalf, List.any_cons, Bool.or_eq_false_iff] at h ih
    obtain ⟨cs, hcs⟩ := ih h.2
    cases p with
    | char c => exact ⟨c :: cs, by simpa [CodeText.ofList] using hcs⟩
    | half n => exact absurd h.1 (by simp [CodePoint.isHalf])

end Json

/-- Whether no first half of a pair stands directly before a second half, which would make one
character of them. -/
def CodeText.IsJoined (s : CodeText) : Prop := CodePoint.joinPairs s.points = s.points

lemma CodeText.isJoined_of_hasHalf {s : CodeText} (h : s.hasHalf = false) : s.IsJoined := by
  obtain ⟨cs, rfl⟩ := Json.eq_ofList_of_hasHalf h
  exact joinPairs_map_char cs

namespace Json

/-- A string is read back up to its closing quote. -/
theorem readString_writeString {s : CodeText} (h : s.IsJoined) (rest : List Char) :
    ∃ body, writeString s ++ rest = '"' :: body ∧ readString body = .ok (s, rest) := by
  refine ⟨s.points.flatMap escapePoint ++ '"' :: rest, by simp [writeString], ?_⟩
  simp only [readString, points_spelled, joinPairs_spelled h]

end Json

end Triage
