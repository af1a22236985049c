import Mathlib
import Triage.Proofs.JsonGrammar
import Triage.Proofs.JsonOrder

/-!
# What is read can be written

Every value that the reader gives is one that JSON text shows. Its texts have no halves left that make a
character, its objects have each key once, its integers stay within the limit, and its numbers with a
fraction have no more than their bits. So what was read of a text can be written and read again.
-/

namespace Triage

namespace CodePoint

lemma pair?_char (p : CodePoint) (c : Char) : pair? p (.char c) = none := by
  cases p <;> rfl

/-- The first of several points stays, or it becomes part of a character. -/
lemma joinPairs_head (q : CodePoint) (ps : List CodePoint) :
    ∃ p more, joinPairs (q :: ps) = p :: more ∧ (p = q ∨ ∃ c, p = .char c) := by
  cases ps with
  | nil => exact ⟨q, [], rfl, .inl rfl⟩
  | cons r ps =>
    cases hpair : pair? q r with
    | none => exact ⟨q, _, Json.joinPairs_cons_cons hpair ps, .inl rfl⟩
    | some c => exact ⟨.char c, _, by simp only [joinPairs, hpair]; rfl, .inr ⟨c, rfl⟩⟩

/-- No pair is left after all of them have been replaced from the left: a character is half of none. -/
theorem joinPairs_joinPairs (ps : List CodePoint) : joinPairs (joinPairs ps) = joinPairs ps := by
  fun_induction joinPairs ps with
  | case1 => rfl
  | case2 p => rfl
  | case3 p q rest c _ ih => rw [Json.joinPairs_char, ih]
  | case4 p q rest hpair ih =>
    obtain ⟨r, more, hjoined, hr⟩ := joinPairs_head q rest
    have hnone : pair? p r = none := by
      rcases hr with rfl | ⟨c, rfl⟩
      · exact hpair
      · exact pair?_char p c
    rw [hjoined] at ih ⊢
    rw [Json.joinPairs_cons_cons hnone, ih]

end CodePoint

namespace Text

lemma numeralIn_concat (cs : List Char) {c : Char} (h : Json.isAsciiDigit c = true) :
    numeralIn 10 (cs ++ [c]) = 10 * numeralIn 10 cs + (c.toNat - 48) := by
  unfold numeralIn
  rw [List.foldl_concat, asciiDigit?_of_isAsciiDigit h]
  rfl

/-- A number has at most as many digits as a text that denotes it. -/
lemma length_ofNat_numeralIn {cs : List Char} (hne : cs ≠ [])
    (h : ∀ c ∈ cs, Json.isAsciiDigit c = true) : (ofNat (numeralIn 10 cs)).length ≤ cs.length := by
  have hlt : numeralIn 10 cs < 10 ^ cs.length := by
    clear hne
    induction cs using List.reverseRecOn with
    | nil => exact Nat.one_pos
    | append_singleton cs c ih =>
      have hc := h c (by simp)
      have hcs := ih fun d hd => h d (List.mem_append_left _ hd)
      have hdigit : c.toNat - 48 < 10 := by
        simp only [Json.isAsciiDigit, Bool.and_eq_true, decide_eq_true_eq] at hc
        omega
      rw [numeralIn_concat cs hc, List.length_append, List.length_singleton, pow_succ]
      omega
  exact (Nat.length_toDigits_le_iff (by decide) (List.length_pos_iff.mpr hne)).mpr hlt

end Text

namespace DigitLimit

lemma admits_of_le {limit : DigitLimit} {n : Int} {digits : Nat}
    (h : limit.textFault? digits = none) (hle : (Text.ofNat n.natAbs).length ≤ digits) :
    limit.admits n = true := by
  cases limit with
  | none => rfl
  | some most =>
    have hdigits : digits ≤ most := by
      by_contra hlt
      simp [textFault?, Nat.lt_of_not_le hlt] at h
    simp [admits, textFault?, hle.trans hdigits]

end DigitLimit

namespace Json

variable {limit : DigitLimit}

/-- Whether all values of a piece, and the keys of its fields, are such that JSON text shows them. -/
def Piece.Legible (limit : DigitLimit) : Piece → Prop
  | .value j => All (Json.Legible limit) j
  | .items js => AllItems (Json.Legible limit) js
  | .fields fs => (∀ k ∈ Entries.keys fs, k.IsJoined) ∧ AllFields (Json.Legible limit) fs

lemma isJoined_of_readString {cs rest : List Char} {s : CodeText}
    (h : readString cs = .ok (s, rest)) : s.IsJoined := by
  unfold readString at h
  split at h
  · obtain ⟨rfl, -⟩ := Prod.mk.inj (Except.ok.inj h)
    exact CodePoint.joinPairs_joinPairs _
  · cases h

lemma legible_of_readMagnitude {negative : Bool} {cs rest : List Char} {j : Json}
    (h : readMagnitude limit negative cs = .ok (j, rest)) : All (Legible limit) j := by
  obtain ⟨whole, afterWhole, hwhole, ⟨-, hfault, rfl⟩ | ⟨-, digits, scale, rfl⟩⟩ := readMagnitude_cases h
  · obtain ⟨-, hne, hdigits⟩ := integerPart?_eq_some hwhole
    refine DigitLimit.admits_of_le hfault ?_
    have hlen := Text.length_ofNat_numeralIn hne hdigits
    split_ifs
    · rwa [Int.natAbs_neg, Int.natAbs_natCast]
    · rwa [Int.natAbs_natCast]
  · exact Binary64.fits_ofDecimal negative digits scale

lemma legible_of_readConstant? {cs rest : List Char} {j : Json}
    (h : readConstant? cs = some (j, rest)) : All (Legible limit) j := by
  obtain ⟨word, hword, -⟩ := readConstant?_eq_some h
  have hall : ∀ w ∈ constants, All (Legible limit) w.2 := by
    simp [constants, All, Legible, Binary64.Fits]
  exact hall _ hword

/-- Repeated keys leave one field each. -/
lemma legible_ofPairs {fs : List (CodeText × Json)} (hkeys : ∀ k ∈ Entries.keys fs, k.IsJoined)
    (hfields : AllFields (Legible limit) fs) : All (Legible limit) (.obj (Entries.ofPairs fs)) := by
  rw [allFields_iff] at hfields
  refine ⟨⟨Entries.nodup_keys_ofPairs fs, fun k hk => ?_⟩, allFields_iff.mpr fun f hf => ?_⟩
  · obtain ⟨f, hf, rfl⟩ := List.mem_map.mp hk
    exact hkeys _ (List.mem_map_of_mem (Entries.mem_of_mem_ofPairs hf))
  · exact hfields f (Entries.mem_of_mem_ofPairs hf)

theorem Parsed.legible {p : Piece} {cs rest : List Char} (h : Parsed limit p cs rest) :
    p.Legible limit := by
  induction h with
  | str hread => exact isJoined_of_readString hread
  | constant hconstant => exact legible_of_readConstant? hconstant
  | positive hnumber | negative hnumber => exact legible_of_readMagnitude hnumber
  | emptyArr _ => exact ⟨trivial, trivial⟩
  | arr _ ih => exact ⟨trivial, ih⟩
  | emptyObj _ => exact ⟨⟨List.nodup_nil, by simp [Entries.keys]⟩, trivial⟩
  | obj _ ih => exact legible_ofPairs ih.1 ih.2
  | lastItem _ _ ih => exact ⟨ih, trivial⟩
  | nextItem _ _ _ ih ihs => exact ⟨ih, ihs⟩
  | lastField hkey _ _ _ ih =>
    exact ⟨List.forall_mem_singleton.mpr (isJoined_of_readString hkey), ih, trivial⟩
  | nextField hkey _ _ _ _ ih ihs =>
    exact ⟨List.forall_mem_cons.mpr ⟨isJoined_of_readString hkey, ihs.1⟩, ih, ihs.2⟩

theorem legible_of_readChars {cs : List Char} {j : Json} (h : readChars limit cs = .ok j) :
    All (Legible limit) j := by
  unfold readChars at h
  split at h
  · cases h
  · rename_i j' rest hvalue
    split_ifs at h
    obtain rfl := Except.ok.inj h
    exact (parsed_value hvalue).legible

end Json

end Triage
