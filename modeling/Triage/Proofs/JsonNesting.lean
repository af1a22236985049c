import Mathlib
import Triage.Proofs.JsonGrammar

/-!
# How JSON text nests

Whatever the reader accepts as one value closes the strings and braces that it opens, and no more than
these. So an object's text is over at its last brace and not before, and a text that breaks a string by a
line feed, or has an angle bracket outside of strings, is never read.
-/

namespace Triage.Json

/-- Where in a JSON text a character stands: between tokens, in a string, or behind a backslash there. -/
inductive Spot where
  | token
  | text
  | escape
  deriving DecidableEq

/-- The count of open braces and the spot after one more character; there is none where no JSON text
goes on like this. -/
def Spot.next : Nat × Spot → Char → Option (Nat × Spot)
  | (depth, .token), c =>
    if c = '"' then some (depth, .text)
    else if c = '{' then some (depth + 1, .token)
    else if c = '}' then (if depth = 0 then none else some (depth - 1, .token))
    else if c = '<' then none
    else some (depth, .token)
  | (depth, .text), c =>
    if c = '"' then some (depth, .token)
    else if c = '\\' then some (depth, .escape)
    else if c.toNat < 32 then none
    else some (depth, .text)
  | (depth, .escape), c => if c.toNat < 32 then none else some (depth, .text)

def scan (s : Nat × Spot) (cs : List Char) : Option (Nat × Spot) := cs.foldlM Spot.next s

/-- Whether a text that begins between tokens ends there, with the same braces open. -/
def Spans (front : List Char) : Prop := ∀ depth, scan (depth, .token) front = some (depth, .token)

/-- Whether a text that begins in a string ends behind that string's closing quote. -/
def ClosesText (front : List Char) : Prop :=
  ∀ depth, scan (depth, .text) front = some (depth, .token)

lemma scan_append (s : Nat × Spot) (a b : List Char) :
    scan s (a ++ b) = (scan s a).bind (scan · b) :=
  List.foldlM_append

lemma scan_cons (s : Nat × Spot) (c : Char) (cs : List Char) :
    scan s (c :: cs) = (Spot.next s c).bind (scan · cs) :=
  List.foldlM_cons

lemma spans_nil : Spans [] := fun _ => rfl

lemma Spans.append {a b : List Char} (ha : Spans a) (hb : Spans b) : Spans (a ++ b) := by
  intro depth
  rw [scan_append, ha depth, Option.bind_some, hb depth]

lemma spans_plain {c : Char} (hc : Plain c) : Spans [c] := by
  obtain ⟨hquote, hopen, hclose, hangle⟩ := hc
  intro depth
  simp [scan, Spot.next, hquote, hopen, hclose, hangle]

lemma spans_of_plain {front : List Char} (h : ∀ c ∈ front, Plain c) : Spans front := by
  induction front with
  | nil => exact spans_nil
  | cons c front ih =>
    rw [List.forall_mem_cons] at h
    exact (spans_plain h.1).append (ih h.2)

lemma ClosesText.spans {front : List Char} (h : ClosesText front) : Spans ('"' :: front) := by
  intro depth
  rw [scan_cons]
  exact h depth

lemma Spans.braces {body : List Char} (h : Spans body) : Spans ('{' :: (body ++ ['}'])) := by
  intro depth
  have hopen : Spot.next (depth, .token) '{' = some (depth + 1, .token) := rfl
  rw [scan_cons, hopen, Option.bind_some, scan_append, h]
  rfl

section Tokens

lemma skipSpace_spans (cs : List Char) : ∃ front, cs = front ++ skipSpace cs ∧ Spans front := by
  refine ⟨cs.takeWhile isSpace, List.takeWhile_append_dropWhile.symm, spans_of_plain fun c hc => ?_⟩
  have hspace := List.mem_takeWhile_imp hc
  simp only [isSpace, Bool.or_eq_true, decide_eq_true_eq] at hspace
  rcases hspace with ((rfl | rfl) | rfl) | rfl <;> decide

lemma next_text_of_hex {c : Char} {n : Nat} (hc : Text.asciiDigit? c = some n) (depth : Nat) :
    Spot.next (depth, .text) c = some (depth, .text) := by
  have hne {d : Char} (hd : Text.asciiDigit? d = none) : c ≠ d := by
    rintro rfl
    rw [hd] at hc
    cases hc
  have hctrl : ¬c.toNat < 32 := by
    intro hlt
    unfold Text.asciiDigit? at hc
    have h1 : ¬(48 ≤ c.toNat) := by omega
    have h2 : ¬(65 ≤ c.toNat) := by omega
    have h3 : ¬(97 ≤ c.toNat) := by omega
    simp [h1, h2, h3] at hc
  simp [Spot.next, hne (d := '"') (by decide), hne (d := '\\') (by decide), hctrl]

lemma hex4?_eq_some {a b x d : Char} {n : Nat} (h : hex4? a b x d = some n) :
    ∃ i j k l, Text.asciiDigit? a = some i ∧ Text.asciiDigit? b = some j ∧
      Text.asciiDigit? x = some k ∧ Text.asciiDigit? d = some l := by
  simp only [hex4?, Option.bind_eq_bind, Option.bind_eq_some_iff] at h
  obtain ⟨i, hi, j, hj, k, hk, l, hl, -⟩ := h
  exact ⟨i, j, k, l, hi, hj, hk, hl⟩

lemma simpleEscape?_not_control {e s : Char} (h : simpleEscape? e = some s) : ¬e.toNat < 32 := by
  unfold simpleEscape? at h
  split at h <;> first | decide | cases h

lemma closesText_cons {c : Char} (hc : ∀ depth, Spot.next (depth, .text) c = some (depth, .text))
    {front : List Char} (h : ClosesText front) : ClosesText (c :: front) := by
  intro depth
  rw [scan_cons, hc, Option.bind_some, h]

lemma closesText_escape {e : Char} (he : ¬e.toNat < 32) {front : List Char} (h : ClosesText front) :
    ClosesText ('\\' :: e :: front) := by
  intro depth
  have hslash : Spot.next (depth, .text) '\\' = some (depth, .escape) := rfl
  have hletter : Spot.next (depth, .escape) e = some (depth, .text) := if_neg he
  rw [scan_cons, hslash, Option.bind_some, scan_cons, hletter, Option.bind_some, h]

/-- What is read of a string goes up to its closing quote. -/
theorem points_closes {cs : List Char} {ps : List CodePoint} {rest : List Char}
    (h : points cs = some (ps, rest)) : ∃ front, cs = front ++ rest ∧ ClosesText front := by
  fun_induction points cs generalizing ps rest with
  | case1 | case3 | case5 | case6 | case8 | case9 => cases h
  | case2 left =>
    cases h
    exact ⟨['"'], rfl, fun depth => rfl⟩
  | case4 a b x d more p qs left hmore hhex _ ih =>
    cases h
    obtain ⟨front, rfl, hfront⟩ := ih hmore
    obtain ⟨n, hn, -⟩ := Option.bind_eq_some_iff.mp hhex
    obtain ⟨i, j, k, l, hi, hj, hk, hl⟩ := hex4?_eq_some hn
    refine ⟨'\\' :: 'u' :: a :: b :: x :: d :: front, rfl, closesText_escape (by decide) ?_⟩
    exact closesText_cons (next_text_of_hex hi) <| closesText_cons (next_text_of_hex hj) <|
      closesText_cons (next_text_of_hex hk) <| closesText_cons (next_text_of_hex hl) hfront
  | case7 e more _ c qs left hmore he _ ih =>
    cases h
    obtain ⟨front, rfl, hfront⟩ := ih hmore
    exact ⟨'\\' :: e :: front, rfl, closesText_escape (simpleEscape?_not_control he) hfront⟩
  | case10 c more hquote hslash hcontrol ih =>
    obtain ⟨⟨qs, left⟩, hmore, heq⟩ := Option.map_eq_some_iff.mp h
    cases heq
    obtain ⟨front, rfl, hfront⟩ := ih hmore
    refine ⟨c :: front, rfl, closesText_cons (fun depth => ?_) hfront⟩
    simp only [Spot.next, hquote, hslash, hcontrol, if_false]

lemma readString_spans {cs rest : List Char} {s : CodeText} (h : readString cs = .ok (s, rest)) :
    ∃ front, '"' :: cs = front ++ rest ∧ Spans front := by
  unfold readString at h
  cases hpoints : points cs with
  | none =>
    rw [hpoints] at h
    cases h
  | some r =>
    rw [hpoints] at h
    cases h
    obtain ⟨front, hcs, hfront⟩ := points_closes hpoints
    exact ⟨'"' :: front, by rw [hcs, List.cons_append], hfront.spans⟩

end Tokens

section Reader

variable {limit : DigitLimit}

/-- How much of a text a piece takes: a value and the items of an array as much as they span, the fields
of an object what they span and the brace. -/
def Piece.Takes : Piece → List Char → List Char → Prop
  | .fields _, cs, rest => ∃ body, cs = body ++ '}' :: rest ∧ Spans body
  | _, cs, rest => ∃ front, cs = front ++ rest ∧ Spans front

lemma spans_cons {c : Char} (hc : Plain c) {front : List Char} (h : Spans front) :
    Spans (c :: front) := (spans_plain hc).append h

/-- White space and a token that follows it. -/
lemma spans_skipSpace {cs rest : List Char} {c : Char} (hc : Plain c) (h : skipSpace cs = c :: rest) :
    ∃ front, cs = front ++ rest ∧ Spans front := by
  obtain ⟨space, hcs, hspace⟩ := skipSpace_spans cs
  exact ⟨space ++ [c], by rw [List.append_assoc, List.singleton_append, ← h, ← hcs],
    hspace.append (spans_plain hc)⟩

/-- A key, its colon and its value. -/
lemma spans_field {k : CodeText} {keyText afterKey valueText more : List Char}
    (hkey : readString keyText = .ok (k, afterKey)) (hcolon : skipSpace afterKey = ':' :: valueText)
    (hvalue : ∃ front, skipSpace valueText = front ++ more ∧ Spans front) :
    ∃ front, '"' :: keyText = front ++ more ∧ Spans front := by
  obtain ⟨key, hkeyText, hkeySpans⟩ := readString_spans hkey
  obtain ⟨colon, hafter, hcolonSpans⟩ := spans_skipSpace (by decide) hcolon
  obtain ⟨space, hspaced, hspace⟩ := skipSpace_spans valueText
  obtain ⟨front, hfront, hspans⟩ := hvalue
  refine ⟨key ++ (colon ++ (space ++ front)), ?_,
    hkeySpans.append (hcolonSpans.append (hspace.append hspans))⟩
  rw [hkeyText, hafter, hspaced, hfront]
  simp only [List.append_assoc]

/-- What the reader takes off a text closes everything that it opens. -/
theorem Parsed.takes {p : Piece} {cs rest : List Char} (h : Parsed limit p cs rest) :
    p.Takes cs rest := by
  induction h with
  | str hread => exact readString_spans hread
  | constant hconstant =>
    obtain ⟨word, rfl, hword⟩ := readConstant?_plain hconstant
    exact ⟨word, rfl, spans_of_plain hword⟩
  | positive hnumber =>
    obtain ⟨front, rfl, hfront⟩ := readMagnitude_plain hnumber
    exact ⟨front, rfl, spans_of_plain hfront⟩
  | negative hnumber =>
    obtain ⟨front, rfl, hfront⟩ := readMagnitude_plain hnumber
    exact ⟨'-' :: front, rfl, spans_cons (by decide) (spans_of_plain hfront)⟩
  | emptyArr hskip =>
    obtain ⟨front, rfl, hfront⟩ := spans_skipSpace (by decide) hskip
    exact ⟨'[' :: front, rfl, spans_cons (by decide) hfront⟩
  | @arr js body rest _ ih =>
    obtain ⟨space, hbody, hspace⟩ := skipSpace_spans body
    obtain ⟨front, hfront, hspans⟩ := ih
    refine ⟨'[' :: (space ++ front), ?_, spans_cons (by decide) (hspace.append hspans)⟩
    rw [List.cons_append, List.append_assoc, ← hfront, ← hbody]
  | @emptyObj body rest hskip =>
    obtain ⟨space, hbody, hspace⟩ := skipSpace_spans body
    refine ⟨'{' :: (space ++ ['}']), ?_, hspace.braces⟩
    rw [List.cons_append, List.append_assoc, List.singleton_append, ← hskip, ← hbody]
  | @obj fs body rest _ ih =>
    obtain ⟨space, hbody, hspace⟩ := skipSpace_spans body
    obtain ⟨front, hfront, hspans⟩ := ih
    refine ⟨'{' :: (space ++ front ++ ['}']), ?_, (hspace.append hspans).braces⟩
    rw [List.cons_append, List.append_assoc, List.append_assoc, List.singleton_append, ← hfront, ← hbody]
  | lastItem _ hskip ih =>
    obtain ⟨front, rfl, hfront⟩ := ih
    obtain ⟨tail, rfl, htail⟩ := spans_skipSpace (by decide) hskip
    exact ⟨front ++ tail, by rw [List.append_assoc], hfront.append htail⟩
  | @nextItem j js cs more next rest _ hskip _ ih ihs =>
    obtain ⟨front, rfl, hfront⟩ := ih
    obtain ⟨comma, rfl, hcomma⟩ := spans_skipSpace (by decide) hskip
    obtain ⟨space, hnext, hspace⟩ := skipSpace_spans next
    obtain ⟨tail, htail, hspans⟩ := ihs
    refine ⟨front ++ (comma ++ (space ++ tail)), ?_,
      hfront.append (hcomma.append (hspace.append hspans))⟩
    rw [List.append_assoc, List.append_assoc, List.append_assoc, ← htail, ← hnext]
  | @lastField _ _ _ _ _ more _ hkey hcolon _ hskip ih =>
    obtain ⟨front, hfront, hspans⟩ := spans_field hkey hcolon ih
    obtain ⟨space, hmore, hspace⟩ := skipSpace_spans more
    refine ⟨front ++ space, ?_, hspans.append hspace⟩
    rw [hfront, List.append_assoc, ← hskip, ← hmore]
  | @nextField _ _ _ _ _ _ _ next _ hkey hcolon _ hskip _ ih ihs =>
    obtain ⟨front, hfront, hspans⟩ := spans_field hkey hcolon ih
    obtain ⟨comma, hmore, hcomma⟩ := spans_skipSpace (by decide) hskip
    obtain ⟨space, hnext, hspace⟩ := skipSpace_spans next
    obtain ⟨body, hbody, hrest⟩ := ihs
    refine ⟨front ++ (comma ++ (space ++ body)), ?_,
      hspans.append (hcomma.append (hspace.append hrest))⟩
    rw [hfront, hmore, hnext, hbody]
    simp only [List.append_assoc]

/-- A value that begins with a brace goes up to the brace that closes it. -/
lemma Parsed.object {j : Json} {cs rest : List Char} (h : Parsed limit (.value j) ('{' :: cs) rest) :
    ∃ body, cs = body ++ '}' :: rest ∧ Spans body := by
  cases h with
  | constant hconstant =>
    obtain ⟨word, hword, heq⟩ := readConstant?_eq_some hconstant
    simp only [constants, List.mem_cons, Prod.mk.injEq, List.not_mem_nil, or_false] at hword
    rcases hword with ⟨rfl, -⟩ | ⟨rfl, -⟩ | ⟨rfl, -⟩ | ⟨rfl, -⟩ | ⟨rfl, -⟩ | ⟨rfl, -⟩
    all_goals exact absurd (congrArg List.head? heq) (by simp)
  | positive hnumber =>
    obtain ⟨whole, afterWhole, hwhole, -⟩ := readMagnitude_cases hnumber
    cases hwhole
  | emptyObj hskip =>
    obtain ⟨space, hspaced, hspace⟩ := skipSpace_spans cs
    exact ⟨space, by rw [← hskip, ← hspaced], hspace⟩
  | obj hfields =>
    obtain ⟨space, hspaced, hspace⟩ := skipSpace_spans cs
    obtain ⟨body, hbody, hspans⟩ := hfields.takes
    exact ⟨space ++ body, by rw [List.append_assoc, ← hbody, ← hspaced], hspace.append hspans⟩

/-- Between the first and the last brace of a text that is read, everything is closed. -/
theorem spans_of_readChars {inside : List Char} {j : Json}
    (h : readChars limit ('{' :: (inside ++ ['}'])) = .ok j) : Spans inside := by
  unfold readChars at h
  rw [skipSpace, List.dropWhile_cons_of_neg (by decide)] at h
  split at h
  · cases h
  · rename_i j' rest hvalue
    split_ifs at h with hrest
    obtain ⟨body, hbody, hspans⟩ := (parsed_value hvalue).object
    have hempty : rest = [] := by
      by_contra hne
      have hlast : rest.getLast hne = '}' := by
        have hall := congrArg List.getLast? hbody
        rw [List.getLast?_concat, List.getLast?_append_cons, List.getLast?_cons,
          List.getLast?_eq_some_getLast hne, Option.getD_some] at hall
        exact (Option.some.inj hall).symm
      have hspaces := List.dropWhile_eq_nil_iff.mp hrest _ (List.getLast_mem hne)
      rw [hlast] at hspaces
      exact absurd hspaces (by decide)
    rw [hempty] at hbody
    rwa [List.append_cancel_right hbody]

end Reader

/-- No text that is read has a closed object's text in front of it that goes on. -/
theorem Spans.not_isPrefix {inside body : List Char} (h : Spans inside) (hbody : Spans body) :
    ¬inside ++ ['}'] <+: body := by
  rintro ⟨rest, rfl⟩
  have hall := hbody 0
  rw [scan_append, scan_append, h 0] at hall
  cases hall

/-- A line feed followed by an angle bracket stands in no text that is read. -/
theorem not_spans_lineFeed (front rest : List Char) : ¬Spans (front ++ '\n' :: '<' :: rest) := by
  intro h
  have hall := h 0
  rw [scan_append] at hall
  cases hfront : scan (0, .token) front with
  | none =>
    rw [hfront] at hall
    cases hall
  | some s =>
    obtain ⟨depth, spot⟩ := s
    rw [hfront, Option.bind_some] at hall
    cases spot <;> cases hall

end Triage.Json
