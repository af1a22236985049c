import Mathlib
import Triage.Duplicate.Cascade
import Triage.Proofs.TextRuns

/-!
# The issues that a text names

A text names an issue by a hash sign with the issue's number behind it. The summary of a cascade names the
issues that followed, each where it stands among them, and no others.
-/

namespace Triage.Duplicate

/-- The number whose digits a text begins with. -/
def leadingNatural? (cs : List Char) : Option Nat :=
  let digits := cs.takeWhile Char.isDigit
  if digits = [] then none else some (Nat.ofDigitChars 10 digits 0)

/-- The number that a text begins with, perhaps below zero. -/
def leadingInteger? : List Char → Option Int
  | '-' :: cs => (leadingNatural? cs).map fun n => -(n : Int)
  | cs => (leadingNatural? cs).map fun n => (n : Int)

/-- The numbers behind the hash signs of a text. -/
def numbersBehindHashes : List Char → List Int
  | [] => []
  | c :: cs =>
    if c = '#' then (leadingInteger? cs).toList ++ numbersBehindHashes cs else numbersBehindHashes cs

/-- The issues that a text names, in the order in which it does. -/
def namedIssues (text : String) : List Int := numbersBehindHashes text.toList

variable {cs rest : List Char}

lemma leadingNatural?_ofNat (n : Nat) (hrest : Text.Stops Char.isDigit rest) :
    leadingNatural? (Text.ofNat n ++ rest) = some n := by
  have hne : Text.ofNat n ≠ [] := Nat.toDigits_ne_nil
  rw [leadingNatural?, Text.takeWhile_eq_of_stops (fun _ => Text.isDigit_of_mem_ofNat) hrest, if_neg hne]
  exact congrArg some Nat.ofDigitChars_ten_toDigits

lemma leadingInteger?_ofInt (n : Int) (hrest : Text.Stops Char.isDigit rest) :
    leadingInteger? (Text.ofInt n ++ rest) = some n := by
  cases n with
  | negSucc n =>
    rw [Text.ofInt, List.cons_append, leadingInteger?, leadingNatural?_ofNat _ hrest]
    rfl
  | ofNat n =>
    have hsign : ∀ later, Text.ofNat n ++ rest ≠ '-' :: later := by
      intro later heq
      obtain ⟨c, ds, hds⟩ := List.exists_cons_of_ne_nil (Nat.toDigits_ne_nil (n := n) (b := 10))
      have hcons : Text.ofNat n = c :: ds := hds
      have hdigit : c.isDigit = true := Text.isDigit_of_mem_ofNat (hcons ▸ List.mem_cons_self)
      rw [hcons] at heq
      rw [(List.cons.inj heq).1] at hdigit
      exact absurd hdigit (by decide)
    rw [Text.ofInt, leadingInteger?.eq_2 _ hsign, leadingNatural?_ofNat n hrest]
    rfl

lemma hash_notMem_ofInt (n : Int) : '#' ∉ Text.ofInt n := by
  have hdigits (k : Nat) : '#' ∉ Text.ofNat k := fun hc =>
    absurd (Text.isDigit_of_mem_ofNat hc) (by decide)
  cases n with
  | ofNat n => exact hdigits n
  | negSucc n => exact List.not_mem_cons_of_ne_of_not_mem (by decide) (hdigits (n + 1))

/-- A part of a text without hash signs names nothing. -/
lemma numbersBehindHashes_append (h : '#' ∉ cs) (rest : List Char) :
    numbersBehindHashes (cs ++ rest) = numbersBehindHashes rest := by
  induction cs with
  | nil => rfl
  | cons c cs ih =>
    rw [List.mem_cons, not_or] at h
    rw [List.cons_append, numbersBehindHashes, if_neg (Ne.symm h.1), ih h.2]

lemma numbersBehindHashes_tag (n : Int) (hrest : Text.Stops Char.isDigit rest) :
    numbersBehindHashes ((issueTag n).toList ++ rest) = n :: numbersBehindHashes rest := by
  have htag : (issueTag n).toList = '#' :: Text.ofInt n := by
    rw [issueTag, String.toList_append, Text.toList_toString]
    rfl
  rw [htag, List.cons_append, numbersBehindHashes, if_pos rfl, leadingInteger?_ofInt n hrest,
    numbersBehindHashes_append (hash_notMem_ofInt n)]
  rfl

lemma numbersBehindHashes_tags (numbers : List Int) :
    numbersBehindHashes ([',', ' '].intercalate (numbers.map fun n => (issueTag n).toList)) = numbers := by
  induction numbers with
  | nil => rfl
  | cons n numbers ih =>
    cases numbers with
    | nil =>
      have hlast := numbersBehindHashes_tag n (Text.stops_of_forall (List.forall_mem_nil _))
      rw [List.append_nil] at hlast
      rw [List.map_singleton, List.intercalate_singleton, hlast]
      rfl
    | cons m numbers =>
      have hstops (later : List Char) : Text.Stops Char.isDigit ([',', ' '] ++ later) :=
        Text.stops_cons rfl
      rw [List.map_cons, List.map_cons, List.intercalate_cons_cons, List.append_assoc,
        numbersBehindHashes_tag n (hstops _), numbersBehindHashes_append (by decide)]
      exact congrArg (n :: ·) ih

/-- The summary of a cascade names the followers in their order. -/
theorem Cascade.namedIssues_summary (c : Cascade) (numbers : List Int) :
    namedIssues (c.summary numbers) = numbers := by
  have hlead : '#' ∉ (c.verb ++ " other issues that were marked as duplicates of this one: ").toList := by
    cases c <;> decide
  have htags : (Text.join ", " (numbers.map issueTag)).toList =
      [',', ' '].intercalate (numbers.map fun n => (issueTag n).toList) := by
    rw [Text.join, String.toList_intercalate, List.map_map]
    rfl
  rw [namedIssues, Cascade.summary, String.toList_append, numbersBehindHashes_append hlead, htags,
    numbersBehindHashes_tags]

example : namedIssues "#7, #-1 and not # 8" = [7, -1] := by decide

end Triage.Duplicate
