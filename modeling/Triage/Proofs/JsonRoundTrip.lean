import Mathlib
import Triage.Proofs.EntryKeys
import Triage.Proofs.FractionText

/-!
# Reading what was written

The reader gives back every value that the printer wrote, and stops where the value ends. Excepted
are what JSON text does not keep: integers with too many digits, the two halves of a surrogate pair as
such, and repeated keys. Numbers with a fraction are read as such numbers.
-/

namespace Triage

namespace Json

mutual

/-- Whether a property holds of a value and of every value inside it. -/
def All (p : Json → Prop) : Json → Prop
  | .arr items => p (.arr items) ∧ AllItems p items
  | .obj fields => p (.obj fields) ∧ AllFields p fields
  | j => p j

def AllItems (p : Json → Prop) : List Json → Prop
  | [] => True
  | j :: js => All p j ∧ AllItems p js

def AllFields (p : Json → Prop) : List (CodeText × Json) → Prop
  | [] => True
  | (_, j) :: fs => All p j ∧ AllFields p fs

end

/-- What a value must not lose when it is written and read: it is no fraction, no integer too long for
the limit, no text with half a character, and no object with a repeated key. -/
def Exact (limit : DigitLimit) : Json → Prop
  | .float _ => False
  | .int n => limit.admits n = true
  | .str s => s.hasHalf = false
  | .obj fields => (Entries.keys fields).Nodup ∧ ∀ k ∈ Entries.keys fields, k.hasHalf = false
  | _ => True

/-- What JSON text keeps of a value: as above, but halves of characters may stand by themselves. -/
def Lasting (limit : DigitLimit) : Json → Prop
  | .float _ => False
  | .int n => limit.admits n = true
  | .str s => s.IsJoined
  | .obj fields => (Entries.keys fields).Nodup ∧ ∀ k ∈ Entries.keys fields, k.IsJoined
  | _ => True

lemma Exact.lasting {limit : DigitLimit} {j : Json} (h : Exact limit j) : Lasting limit j := by
  cases j with
  | float x => exact h
  | int n => exact h
  | str s => exact CodeText.isJoined_of_hasHalf h
  | obj fields => exact ⟨h.1, fun k hk => CodeText.isJoined_of_hasHalf (h.2 k hk)⟩
  | _ => trivial

/-- What JSON text shows of a value: as above, and numbers with a fraction as such. -/
def Legible (limit : DigitLimit) : Json → Prop
  | .float x => x.Fits
  | .int n => limit.admits n = true
  | .str s => s.IsJoined
  | .obj fields => (Entries.keys fields).Nodup ∧ ∀ k ∈ Entries.keys fields, k.IsJoined
  | _ => True

lemma Lasting.legible {limit : DigitLimit} {j : Json} (h : Lasting limit j) : Legible limit j := by
  cases j with
  | float x => exact absurd h id
  | _ => exact h

mutual

theorem All.imp {p q : Json → Prop} (hpq : ∀ j, p j → q j) : ∀ j : Json, All p j → All q j
  | .null, h => hpq _ h
  | .bool _, h => hpq _ h
  | .int _, h => hpq _ h
  | .float _, h => hpq _ h
  | .str _, h => hpq _ h
  | .arr items, h => ⟨hpq _ h.1, AllItems.imp hpq items h.2⟩
  | .obj fields, h => ⟨hpq _ h.1, AllFields.imp hpq fields h.2⟩

theorem AllItems.imp {p q : Json → Prop} (hpq : ∀ j, p j → q j) :
    ∀ js : List Json, AllItems p js → AllItems q js
  | [], _ => trivial
  | j :: js, h => ⟨All.imp hpq j h.1, AllItems.imp hpq js h.2⟩

theorem AllFields.imp {p q : Json → Prop} (hpq : ∀ j, p j → q j) :
    ∀ fs : List (CodeText × Json), AllFields p fs → AllFields q fs
  | [], _ => trivial
  | (_, j) :: fs, h => ⟨All.imp hpq j h.1, AllFields.imp hpq fs h.2⟩

end

/-- The number that is read from the text of a number with a fraction. -/
def readBack (x : Binary64) : Binary64 :=
  match value none 1 (floatText.write x) with
  | .ok (.float y, _) => y
  | _ => x

mutual

/-- A value with its numbers with a fraction read back. -/
def reread : Json → Json
  | .float x => .float (readBack x)
  | .arr items => .arr (rereadItems items)
  | .obj fields => .obj (rereadFields fields)
  | j => j

def rereadItems : List Json → List Json
  | [] => []
  | j :: js => reread j :: rereadItems js

def rereadFields : List (CodeText × Json) → List (CodeText × Json)
  | [] => []
  | (k, j) :: fs => (k, reread j) :: rereadFields fs

end

lemma rereadFields_eq_map (fs : List (CodeText × Json)) :
    rereadFields fs = fs.map fun f => (f.1, reread f.2) := by
  induction fs with
  | nil => rfl
  | cons f fs ih => rw [rereadFields, ih, List.map_cons]

mutual

theorem reread_of_lasting {limit : DigitLimit} : ∀ j : Json, All (Lasting limit) j → reread j = j
  | .null, _ => rfl
  | .bool _, _ => rfl
  | .int _, _ => rfl
  | .float _, h => absurd h (by simp [All, Lasting])
  | .str _, _ => rfl
  | .arr items, h => by rw [reread, rereadItems_of_lasting items h.2]
  | .obj fields, h => by rw [reread, rereadFields_of_lasting fields h.2]

theorem rereadItems_of_lasting {limit : DigitLimit} :
    ∀ js : List Json, AllItems (Lasting limit) js → rereadItems js = js
  | [], _ => rfl
  | j :: js, h => by rw [rereadItems, reread_of_lasting j h.1, rereadItems_of_lasting js h.2]

theorem rereadFields_of_lasting {limit : DigitLimit} :
    ∀ fs : List (CodeText × Json), AllFields (Lasting limit) fs → rereadFields fs = fs
  | [], _ => rfl
  | (_, j) :: fs, h => by rw [rereadFields, reread_of_lasting j h.1, rereadFields_of_lasting fs h.2]

end

/-- The items of an array that has some, with the bracket that closes it. -/
def itemsText : List Json → List Char
  | [] => []
  | j :: js => write j ++ writeItems js

/-- The fields of an object that has some, with the brace that closes it. -/
def fieldsText : List (CodeText × Json) → List Char
  | [] => []
  | (k, j) :: fs => writeString k ++ ':' :: ' ' :: (write j ++ writeFields fs)

lemma write_arr {l : List Json} (h : l ≠ []) : write (.arr l) = '[' :: itemsText l := by
  cases l with
  | nil => exact absurd rfl h
  | cons j js => rw [write, itemsText]

lemma write_obj {l : List (CodeText × Json)} (h : l ≠ []) :
    write (.obj l) = '\x7b' :: fieldsText l := by
  cases l with
  | nil => exact absurd rfl h
  | cons f fs => rw [write, fieldsText]

lemma writeItems_of_ne_nil {l : List Json} (h : l ≠ []) :
    writeItems l = ',' :: ' ' :: itemsText l := by
  cases l with
  | nil => exact absurd rfl h
  | cons j js => rw [writeItems, itemsText]

lemma writeFields_of_ne_nil {l : List (CodeText × Json)} (h : l ≠ []) :
    writeFields l = ',' :: ' ' :: fieldsText l := by
  cases l with
  | nil => exact absurd rfl h
  | cons f fs => rw [writeFields, fieldsText]

lemma ofNat_head (n : Nat) : ∃ c cs, Text.ofNat n = c :: cs ∧ isAsciiDigit c = true := by
  obtain ⟨c, cs, h⟩ := List.exists_cons_of_ne_nil (Nat.toDigits_ne_nil (n := n) (b := 10))
  exact ⟨c, cs, h, Text.isAsciiDigit_of_mem_ofNat (n := n) (by rw [Text.ofNat, h]; simp)⟩

lemma ne_of_isAsciiDigit {c d : Char} (hc : isAsciiDigit c = true) (hd : isAsciiDigit d = false) :
    c ≠ d := by
  rintro rfl
  exact absurd hc (by simp [hd])

lemma readConstant?_digit {c : Char} (h : isAsciiDigit c = true) (rest : List Char) :
    readConstant? (c :: rest) = none ∧ readConstant? ('-' :: c :: rest) = none := by
  have hne (d : Char) (hd : isAsciiDigit d = false) : ¬d = c := (ne_of_isAsciiDigit h hd).symm
  constructor <;>
    simp [readConstant?, constants, hne 'n' rfl, hne 't' rfl, hne 'f' rfl, hne 'N' rfl, hne 'I' rfl,
      hne '-' rfl]

/-- A word of the grammar is read as what it stands for. -/
lemma value_constant {limit : DigitLimit} {word : List Char} {j : Json} (h : (word, j) ∈ constants)
    (fuel : Nat) (rest : List Char) : value limit (fuel + 1) (word ++ rest) = .ok (j, rest) := by
  simp only [constants, List.mem_cons, Prod.mk.injEq, List.not_mem_nil, or_false] at h
  rcases h with ⟨rfl, rfl⟩ | ⟨rfl, rfl⟩ | ⟨rfl, rfl⟩ | ⟨rfl, rfl⟩ | ⟨rfl, rfl⟩ | ⟨rfl, rfl⟩
  all_goals rfl

lemma value_ofInt {limit : DigitLimit} {n : Int} (hn : limit.admits n = true) (fuel : Nat)
    {rest : List Char} (h : EndsValue rest) :
    value limit (fuel + 1) (Text.ofInt n ++ rest) = .ok (.int n, rest) := by
  cases n with
  | ofNat m =>
    obtain ⟨c, cs, hc, hd⟩ := ofNat_head m
    have hne (d : Char) (hf : isAsciiDigit d = false) : ¬c = d := ne_of_isAsciiDigit hd hf
    have hm : limit.admits (m : Int) = true := hn
    have hread := readMagnitude_ofNat false hm h
    rw [hc, List.cons_append] at hread
    simp only [Text.ofInt, hc, List.cons_append, value, hne '"' rfl, hne '[' rfl, hne '\x7b' rfl,
      hne '-' rfl, (readConstant?_digit hd (cs ++ rest)).1, if_false, hread]
    rfl
  | negSucc m =>
    obtain ⟨c, cs, hc, hd⟩ := ofNat_head (m + 1)
    have hm : limit.admits ((m + 1 : Nat) : Int) = true := hn
    have hread := readMagnitude_ofNat true hm h
    rw [hc, List.cons_append] at hread
    simp only [Text.ofInt, hc, List.cons_append, value, Char.reduceEq,
      (readConstant?_digit hd (cs ++ rest)).2, if_false, if_true, hread]
    rfl

/-- A digit begins a value. -/
lemma starts_of_isAsciiDigit {c : Char} (h : isAsciiDigit c = true) : isSpace c = false ∧ c ≠ ']' := by
  refine ⟨?_, ne_of_isAsciiDigit h (by decide)⟩
  rw [Bool.eq_false_iff]
  intro hs
  simp only [isSpace, Bool.or_eq_true, decide_eq_true_eq] at hs
  rcases hs with ((rfl | rfl) | rfl) | rfl <;> exact absurd h (by decide)

/-- The text of a number with a fraction: a word for those that have none, or a fraction with or without
a minus sign. -/
lemma write_float_cases {x : Binary64} (hx : x.Fits) :
    (∃ y, (floatText.write x, .float y) ∈ constants) ∨
      ∃ body, IsFraction body ∧ (floatText.write x = body ∨ floatText.write x = '-' :: body) := by
  match x with
  | .nan => exact .inl ⟨.nan, by simp [constants, FloatText.write, floatText]⟩
  | .infinite false => exact .inl ⟨.infinite false, by simp [constants, FloatText.write, floatText]⟩
  | .infinite true => exact .inl ⟨.infinite true, by simp [constants, FloatText.write, floatText]⟩
  | .finite negative m e =>
    refine .inr ?_
    have hbody : IsFraction (if m = 0 then ['0', '.', '0'] else
        floatText.decimal (Binary64.shortest m e).1 (Binary64.shortest m e).2) := by
      split_ifs with hm
      · have hzero : IsFraction (['0'] ++ '.' :: ['0']) :=
          isFraction_positional isWhole_zero (by simp) isWhole_zero.digits
        exact hzero
      · refine isFraction_decimal ?_
        by_contra hnot
        rw [not_or, not_or, not_not, not_le, not_le] at hnot
        exact Binary64.shortest_ne_zero (Nat.pos_of_ne_zero hm) hx hnot.2.1 hnot.2.2 hnot.1
    refine ⟨_, hbody, ?_⟩
    cases negative
    · exact .inl rfl
    · exact .inr rfl

lemma write_eq_cons {limit : DigitLimit} {j : Json} (h : All (Legible limit) j) :
    ∃ c cs, write j = c :: cs ∧ isSpace c = false ∧ c ≠ ']' := by
  match j with
  | .null => exact ⟨_, _, rfl, by decide, by decide⟩
  | .bool true => exact ⟨_, _, rfl, by decide, by decide⟩
  | .bool false => exact ⟨_, _, rfl, by decide, by decide⟩
  | .float x =>
    rcases write_float_cases h with ⟨y, hword⟩ | ⟨body, hbody, hwrite⟩
    · simp only [constants, List.mem_cons, Prod.mk.injEq, List.not_mem_nil, or_false] at hword
      rcases hword with ⟨hw, -⟩ | ⟨hw, -⟩ | ⟨hw, -⟩ | ⟨hw, -⟩ | ⟨hw, -⟩ | ⟨hw, -⟩
      all_goals exact ⟨_, _, hw, by decide, by decide⟩
    · obtain ⟨c, cs, rfl, hd⟩ := hbody.head
      rcases hwrite with hw | hw
      · exact ⟨c, cs, hw, starts_of_isAsciiDigit hd⟩
      · exact ⟨_, _, hw, by decide, by decide⟩
  | .str s => exact ⟨_, _, rfl, by decide, by decide⟩
  | .arr [] => exact ⟨_, _, rfl, by decide, by decide⟩
  | .arr (_ :: _) => exact ⟨_, _, write_arr (by simp), by decide, by decide⟩
  | .obj [] => exact ⟨_, _, rfl, by decide, by decide⟩
  | .obj (_ :: _) => exact ⟨_, _, write_obj (by simp), by decide, by decide⟩
  | .int (.negSucc m) => exact ⟨_, _, rfl, by decide, by decide⟩
  | .int (.ofNat m) =>
    obtain ⟨c, cs, hc, hd⟩ := ofNat_head m
    exact ⟨c, cs, hc, starts_of_isAsciiDigit hd⟩

/-- The text of a number with a fraction is read as such a number, whatever follows that cannot extend it.
The number is the same in every place, which is what `readBack` says. -/
lemma value_float {limit : DigitLimit} {x : Binary64} (hx : x.Fits) (fuel : Nat) {rest : List Char}
    (h : EndsValue rest) :
    value limit (fuel + 1) (floatText.write x ++ rest) = .ok (.float (readBack x), rest) := by
  obtain ⟨y, hy⟩ : ∃ y, ∀ (limit : DigitLimit) (fuel : Nat) (rest : List Char), EndsValue rest →
      value limit (fuel + 1) (floatText.write x ++ rest) = .ok (.float y, rest) := by
    rcases write_float_cases hx with ⟨y, hword⟩ | ⟨body, hbody, hwrite⟩
    · exact ⟨y, fun _ fuel rest _ => value_constant hword fuel rest⟩
    · obtain ⟨c, cs, rfl, hd⟩ := hbody.head
      have hne (d : Char) (hf : isAsciiDigit d = false) : ¬c = d := ne_of_isAsciiDigit hd hf
      rcases hwrite with hw | hw
      · obtain ⟨y, hread⟩ := hbody.read false
        refine ⟨y, fun limit fuel rest hr => ?_⟩
        have hread := hread limit rest hr
        rw [hw]
        rw [List.cons_append] at hread ⊢
        simp only [value, hne '"' rfl, hne '[' rfl, hne '\x7b' rfl, hne '-' rfl,
          (readConstant?_digit hd (cs ++ rest)).1, if_false, hread]
      · obtain ⟨y, hread⟩ := hbody.read true
        refine ⟨y, fun limit fuel rest hr => ?_⟩
        have hread := hread limit rest hr
        rw [hw]
        rw [List.cons_append] at hread ⊢
        simp only [List.cons_append, value, Char.reduceEq, (readConstant?_digit hd (cs ++ rest)).2,
          if_false, if_true, hread]
  have hnone := hy none 0 [] endsValue_nil
  rw [List.append_nil] at hnone
  have hback : readBack x = y := by
    unfold readBack
    rw [hnone]
  rw [hback, hy limit fuel rest h]

lemma skipSpace_cons {c : Char} (h : isSpace c = false) (cs : List Char) :
    skipSpace (c :: cs) = c :: cs := by
  rw [skipSpace, List.dropWhile_cons, h]
  rfl

lemma items_cons {limit : DigitLimit} {fuel : Nat} {j : Json} {js : List Json}
    {text more rest : List Char} (hj : value limit fuel text = .ok (j, ',' :: ' ' :: more))
    (hmore : skipSpace more = more) (hjs : items limit fuel more = .ok (js, rest)) :
    items limit (fuel + 1) text = .ok (j :: js, rest) := by
  have hblank : skipSpace (' ' :: more) = skipSpace more := rfl
  simp only [items, hj, skipSpace_cons (by decide : isSpace ',' = false), hblank, hmore, hjs]
  rfl

lemma items_last {limit : DigitLimit} {fuel : Nat} {j : Json} {text rest : List Char}
    (hj : value limit fuel text = .ok (j, ']' :: rest)) :
    items limit (fuel + 1) text = .ok ([j], rest) := by
  simp only [items, hj, skipSpace_cons (by decide : isSpace ']' = false)]

lemma value_arr {limit : DigitLimit} {fuel : Nat} {c : Char} {l : List Json} {text rest : List Char}
    (hc : isSpace c = false) (hb : c ≠ ']') (h : items limit fuel (c :: text) = .ok (l, rest)) :
    value limit (fuel + 1) ('[' :: c :: text) = .ok (.arr l, rest) := by
  simp only [value, Char.reduceEq, if_false, if_true, skipSpace_cons hc]
  split
  · rename_i left hl
    exact absurd (List.cons.inj hl).1 hb
  · rw [h]
    rfl

lemma fields_cons {limit : DigitLimit} {fuel : Nat} {k : CodeText} {j : Json}
    {fs : List (CodeText × Json)} {body text more rest : List Char}
    (hk : readString body = .ok (k, ':' :: ' ' :: text)) (htext : skipSpace text = text)
    (hj : value limit fuel text = .ok (j, ',' :: ' ' :: more)) (hmore : skipSpace more = more)
    (hfs : fields limit fuel more = .ok (fs, rest)) :
    fields limit (fuel + 1) ('"' :: body) = .ok ((k, j) :: fs, rest) := by
  have hblank (cs : List Char) : skipSpace (' ' :: cs) = skipSpace cs := rfl
  simp only [fields, hk, skipSpace_cons (by decide : isSpace ':' = false), hblank, htext, hj,
    skipSpace_cons (by decide : isSpace ',' = false), hmore, hfs]
  rfl

lemma fields_last {limit : DigitLimit} {fuel : Nat} {k : CodeText} {j : Json}
    {body text rest : List Char} (hk : readString body = .ok (k, ':' :: ' ' :: text))
    (htext : skipSpace text = text) (hj : value limit fuel text = .ok (j, '\x7d' :: rest)) :
    fields limit (fuel + 1) ('"' :: body) = .ok ([(k, j)], rest) := by
  have hblank (cs : List Char) : skipSpace (' ' :: cs) = skipSpace cs := rfl
  simp only [fields, hk, skipSpace_cons (by decide : isSpace ':' = false), hblank, htext, hj,
    skipSpace_cons (by decide : isSpace '\x7d' = false)]

lemma value_obj {limit : DigitLimit} {fuel : Nat} {l : List (CodeText × Json)}
    {body rest : List Char} (hn : (Entries.keys l).Nodup)
    (h : fields limit fuel ('"' :: body) = .ok (l, rest)) :
    value limit (fuel + 1) ('\x7b' :: '"' :: body) = .ok (.obj l, rest) := by
  simp only [value, Char.reduceEq, if_false, if_true,
    skipSpace_cons (by decide : isSpace '"' = false)]
  split
  · rename_i left hl
    exact absurd (List.cons.inj hl).1 (by decide)
  · rw [h]
    simp only [Except.map, Entries.ofPairs_of_nodup hn]

lemma value_str {limit : DigitLimit} {fuel : Nat} {s : CodeText} {body rest : List Char}
    (h : readString body = .ok (s, rest)) :
    value limit (fuel + 1) ('"' :: body) = .ok (.str s, rest) := by
  simp only [value, if_true, h]
  rfl

lemma itemsText_eq_cons {limit : DigitLimit} {l : List Json} (hne : l ≠ [])
    (h : AllItems (Legible limit) l) (rest : List Char) :
    ∃ c text, itemsText l ++ rest = c :: text ∧ isSpace c = false ∧ c ≠ ']' := by
  cases l with
  | nil => exact absurd rfl hne
  | cons j js =>
    obtain ⟨c, cs, hc, hs, hb⟩ := write_eq_cons h.1
    exact ⟨c, cs ++ (writeItems js ++ rest), by simp [itemsText, hc], hs, hb⟩

mutual

/-- A written value is read back, whatever follows that cannot extend it. -/
theorem value_write {limit : DigitLimit} : ∀ (j : Json) (fuel : Nat) (rest : List Char),
    All (Legible limit) j → EndsValue rest → (write j).length ≤ fuel →
    value limit fuel (write j ++ rest) = .ok (reread j, rest)
  | _, 0, _, h, _, hf => by
    obtain ⟨c, cs, hc, -⟩ := write_eq_cons h
    simp [hc] at hf
  | .null, fuel + 1, rest, _, _, _ => value_constant (by simp [constants, write, reread]) fuel rest
  | .bool true, fuel + 1, rest, _, _, _ => value_constant (by simp [constants, write, reread]) fuel rest
  | .bool false, fuel + 1, rest, _, _, _ => value_constant (by simp [constants, write, reread]) fuel rest
  | .int n, fuel + 1, rest, h, hr, _ => value_ofInt h fuel hr
  | .float x, fuel + 1, rest, h, hr, _ => value_float h fuel hr
  | .str s, fuel + 1, rest, h, _, _ => by
    obtain ⟨body, hb, hread⟩ := readString_writeString h rest
    rw [write, hb]
    exact value_str hread
  | .arr [], fuel + 1, rest, _, _, _ => by
    simp [write, value, skipSpace_cons (by decide : isSpace ']' = false), reread, rereadItems]
  | .obj [], fuel + 1, rest, _, _, _ => by
    simp [write, value, skipSpace_cons (by decide : isSpace '\x7d' = false), reread, rereadFields]
  | .arr (j :: js), fuel + 1, rest, h, _, hf => by
    have hne : j :: js ≠ [] := by simp
    rw [write_arr hne, List.length_cons] at hf
    have hitems := items_itemsText (j :: js) fuel rest hne h.2 (by omega)
    obtain ⟨c, text, hc, hs, hb⟩ := itemsText_eq_cons hne h.2 rest
    rw [write_arr hne, List.cons_append, hc]
    exact value_arr hs hb (hc ▸ hitems)
  | .obj (f :: fs), fuel + 1, rest, h, _, hf => by
    have hne : f :: fs ≠ [] := by simp
    rw [write_obj hne, List.length_cons] at hf
    have hfields := fields_fieldsText (f :: fs) fuel rest hne h.1.2 h.2 (by omega)
    rw [write_obj hne, List.cons_append, fieldsText, writeString, List.cons_append,
      List.cons_append] at *
    refine value_obj ?_ hfields
    rw [rereadFields_eq_map, Entries.keys_map]
    exact h.1.1

theorem items_itemsText {limit : DigitLimit} : ∀ (l : List Json) (fuel : Nat) (rest : List Char),
    l ≠ [] → AllItems (Legible limit) l → (itemsText l).length ≤ fuel →
    items limit fuel (itemsText l ++ rest) = .ok (rereadItems l, rest)
  | [], _, _, hne, _, _ => absurd rfl hne
  | j :: js, 0, _, _, h, hf => by
    obtain ⟨c, cs, hc, -⟩ := write_eq_cons h.1
    simp [itemsText, hc] at hf
  | [j], fuel + 1, rest, _, h, hf => by
    simp only [itemsText, writeItems, List.length_append, List.length_singleton] at hf
    have hj := value_write j fuel (']' :: rest) h.1 (endsValue_cons rest (by simp)) (by omega)
    rw [itemsText, writeItems, List.append_assoc]
    exact items_last hj
  | j :: j' :: js, fuel + 1, rest, _, h, hf => by
    have hne : j' :: js ≠ [] := by simp
    rw [itemsText, writeItems_of_ne_nil hne] at hf ⊢
    simp only [List.length_append, List.length_cons] at hf
    obtain ⟨c, text, hc, hs, -⟩ := itemsText_eq_cons hne h.2 rest
    have hj := value_write j fuel (',' :: ' ' :: (itemsText (j' :: js) ++ rest)) h.1
      (endsValue_cons _ (by simp)) (by omega)
    have hjs := items_itemsText (j' :: js) fuel rest hne h.2 (by omega)
    rw [List.append_assoc]
    exact items_cons hj (by rw [hc, skipSpace_cons hs]) hjs

theorem fields_fieldsText {limit : DigitLimit} :
    ∀ (l : List (CodeText × Json)) (fuel : Nat) (rest : List Char), l ≠ [] →
    (∀ k ∈ Entries.keys l, k.IsJoined) → AllFields (Legible limit) l →
    (fieldsText l).length ≤ fuel →
    fields limit fuel (fieldsText l ++ rest) = .ok (rereadFields l, rest)
  | [], _, _, hne, _, _, _ => absurd rfl hne
  | (k, j) :: fs, 0, _, _, _, _, hf => by
    simp [fieldsText, writeString] at hf
  | [(k, j)], fuel + 1, rest, _, hk, h, hf => by
    simp only [fieldsText, writeFields, List.length_append, List.length_cons,
      List.length_nil] at hf
    obtain ⟨c, cs, hc, hs, -⟩ := write_eq_cons h.1
    have hj := value_write j fuel ('\x7d' :: rest) h.1 (endsValue_cons rest (by simp)) (by omega)
    obtain ⟨body, hb, hread⟩ := readString_writeString (hk k (by simp [Entries.keys]))
      (':' :: ' ' :: (write j ++ '\x7d' :: rest))
    simp only [fieldsText, writeFields, List.append_assoc, List.cons_append, List.nil_append, hb]
    exact fields_last hread (by rw [hc, List.cons_append, skipSpace_cons hs]) hj
  | (k, j) :: f :: fs, fuel + 1, rest, _, hk, h, hf => by
    have hne : f :: fs ≠ [] := by simp
    rw [fieldsText, writeFields_of_ne_nil hne] at hf ⊢
    simp only [List.length_append, List.length_cons] at hf
    obtain ⟨c, cs, hc, hs, -⟩ := write_eq_cons h.1
    have hj := value_write j fuel (',' :: ' ' :: (fieldsText (f :: fs) ++ rest)) h.1
      (endsValue_cons _ (by simp)) (by omega)
    have hfs := fields_fieldsText (f :: fs) fuel rest hne
      (fun k' hk' => hk k' (List.mem_cons_of_mem _ hk')) h.2 (by omega)
    obtain ⟨body, hb, hread⟩ := readString_writeString (hk k (by simp [Entries.keys]))
      (':' :: ' ' :: (write j ++ ',' :: ' ' :: (fieldsText (f :: fs) ++ rest)))
    have hmore : skipSpace (fieldsText (f :: fs) ++ rest) = fieldsText (f :: fs) ++ rest :=
      skipSpace_cons (c := '"') (by decide) _
    simp only [List.append_assoc, List.cons_append, hb]
    exact fields_cons hread (by rw [hc, List.cons_append, skipSpace_cons hs]) hj hmore hfs

end

theorem readChars_write_reread {limit : DigitLimit} {j : Json} (h : All (Legible limit) j) :
    readChars limit (write j) = .ok (reread j) := by
  obtain ⟨c, cs, hc, hs, -⟩ := write_eq_cons h
  have hskip : skipSpace (write j) = write j := by rw [hc, skipSpace_cons hs]
  have hread := value_write j (2 * (write j).length + 2) [] h endsValue_nil (by omega)
  rw [List.append_nil] at hread
  simp only [readChars, hskip, hread]
  rfl

end Json

end Triage
