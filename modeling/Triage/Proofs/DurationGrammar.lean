import Mathlib
import Triage.Proofs.TaskLimits
import Triage.Proofs.TextRuns

/-!
# The grammar of durations

A duration is an amount in digits of any script and a unit, with blanks around both. A unit is spelled by
its letter, whose case matters, or by its name in any case, in the singular or the plural. The texts that
are read as durations are exactly those of this grammar whose amount of units is not too long.
-/

namespace Triage

namespace Text

/-- The number that digits denote in their places. -/
def placeValue (cs : List Char) : Nat :=
  Nat.ofDigits 10 (cs.map fun c => (digit? c).getD 0).reverse

lemma placeValue_eq (cs : List Char) : placeValue cs = numeral cs := by
  induction cs using List.reverseRecOn with
  | nil => rfl
  | append_singleton cs c ih =>
    rw [placeValue] at ih
    rw [placeValue, numeral, List.map_append, List.map_singleton, List.reverse_concat, Nat.ofDigits_cons, ih,
      List.foldl_concat, ← numeral, Nat.add_comm]

end Text

namespace Duration

inductive TimeUnit where
  | second
  | minute
  | hour
  | day
  | week
  | month
  | year
  deriving DecidableEq, Repr

namespace TimeUnit

def letter : TimeUnit → Char
  | second => 's'
  | minute => 'm'
  | hour => 'h'
  | day => 'd'
  | week => 'w'
  | month => 'M'
  | year => 'y'

def name : TimeUnit → String
  | second => "second"
  | minute => "minute"
  | hour => "hour"
  | day => "day"
  | week => "week"
  | month => "month"
  | year => "year"

/-- Months count as 30 days and years as 365. -/
def seconds : TimeUnit → Nat
  | second => 1
  | minute => 60
  | hour => 60 * 60
  | day => 24 * (60 * 60)
  | week => 7 * (24 * (60 * 60))
  | month => 30 * (24 * (60 * 60))
  | year => 365 * (24 * (60 * 60))

def all : List TimeUnit := [second, minute, hour, day, week, month, year]

/-- A unit is spelled by its letter, or by its name in any case and perhaps with one more `s`. -/
def Spells (u : TimeUnit) (word : List Char) : Prop :=
  word = [u.letter] ∨ word.map Char.toLower = u.name.toList ∨
    word.map Char.toLower = u.name.toList ++ ['s']

end TimeUnit

variable {u : TimeUnit} {word : List Char} {length : Nat}

lemma shortUnit?_eq_some_iff : shortUnit? word = some length ↔
    ∃ u : TimeUnit, word = [u.letter] ∧ u.seconds = length := by
  constructor
  · intro h
    unfold shortUnit? at h
    split at h
    · exact ⟨.second, rfl, Option.some.inj h⟩
    · exact ⟨.minute, rfl, Option.some.inj h⟩
    · exact ⟨.hour, rfl, Option.some.inj h⟩
    · exact ⟨.day, rfl, Option.some.inj h⟩
    · exact ⟨.week, rfl, Option.some.inj h⟩
    · exact ⟨.month, rfl, Option.some.inj h⟩
    · exact ⟨.year, rfl, Option.some.inj h⟩
    · cases h
  · rintro ⟨u, rfl, rfl⟩
    cases u <;> rfl

/-- The table of names holds the units, each once. -/
lemma lookup_longUnits {key : List Char} : longUnits.lookup key = some length ↔
    ∃ u : TimeUnit, key = u.name.toList ∧ u.seconds = length := by
  have htable : longUnits = TimeUnit.all.map fun u => (u.name.toList, u.seconds) := rfl
  constructor
  · intro h
    obtain ⟨before, later, htable', -⟩ := List.lookup_eq_some_iff.mp h
    have hmem : (key, length) ∈ longUnits := by
      rw [htable']
      exact List.mem_append_right _ List.mem_cons_self
    rw [htable] at hmem
    obtain ⟨u, -, hu⟩ := List.mem_map.mp hmem
    obtain ⟨rfl, rfl⟩ := Prod.mk.inj hu
    exact ⟨u, rfl, rfl⟩
  · rintro ⟨u, rfl, rfl⟩
    cases u <;> rfl

/-- A plural is made by one `s` at the end. -/
lemma singular_eq_iff {cs name : List Char} (hname : name.getLast? ≠ some 's') :
    singular cs = name ↔ cs = name ∨ cs = name ++ ['s'] := by
  unfold singular
  by_cases hlast : cs.getLast? = some 's'
  · obtain ⟨front, rfl⟩ := List.getLast?_eq_some_iff.mp hlast
    rw [if_pos hlast, List.dropLast_concat]
    constructor
    · rintro rfl
      exact .inr rfl
    · rintro (rfl | h)
      · exact absurd hlast hname
      · exact List.append_cancel_right h
  · rw [if_neg hlast]
    constructor
    · exact .inl
    · rintro (rfl | rfl)
      · rfl
      · rw [List.getLast?_concat] at hlast
        exact absurd rfl hlast

lemma longUnit?_eq_some_iff : longUnit? word = some length ↔ ∃ u : TimeUnit,
    (word.map Char.toLower = u.name.toList ∨ word.map Char.toLower = u.name.toList ++ ['s']) ∧
      u.seconds = length := by
  have hname (u : TimeUnit) : u.name.toList.getLast? ≠ some 's' := by cases u <;> decide
  rw [longUnit?, lookup_longUnits]
  simp only [singular_eq_iff (hname _)]

/-- A word that has a length as a unit spells a unit of this length. -/
lemma unitSeconds?_eq_some_iff : unitSeconds? word = some length ↔
    ∃ u : TimeUnit, u.Spells word ∧ u.seconds = length := by
  rw [unitSeconds?, Option.or_eq_some_iff, shortUnit?_eq_some_iff, longUnit?_eq_some_iff]
  constructor
  · rintro (⟨u, hword, hlength⟩ | ⟨-, u, hword, hlength⟩)
    · exact ⟨u, .inl hword, hlength⟩
    · exact ⟨u, .inr hword, hlength⟩
  · rintro ⟨u, hword | hword, hlength⟩
    · exact .inl ⟨u, hword, hlength⟩
    · refine .inr ⟨?_, u, hword, hlength⟩
      -- a letter alone is shorter than every name
      rw [Option.eq_none_iff_forall_ne_some]
      intro short hshort
      obtain ⟨v, rfl, -⟩ := shortUnit?_eq_some_iff.mp hshort
      cases u <;> simp [TimeUnit.name] at hword

lemma isAlpha_of_toLower {c : Char} (h : c.toLower.isAlpha = true) : c.isAlpha = true := by
  by_cases hupper : c.isUpper = true
  · rw [Char.isAlpha, hupper]
    rfl
  · have hsame : c.toLower = c := by
      rw [Char.toLower, dif_neg]
      simpa [Char.isUpper] using hupper
    rwa [hsame] at h

/-- Every spelling of a unit is made of letters. -/
lemma TimeUnit.Spells.letters (h : u.Spells word) : word ≠ [] ∧ ∀ c ∈ word, c.isAlpha = true := by
  have hname : ∀ c ∈ u.name.toList, c.isAlpha = true :=
    List.all_eq_true.mp (by cases u <;> decide)
  have hne : u.name.toList ≠ [] := by cases u <;> decide
  have hletters : (∀ c ∈ word.map Char.toLower, c.isAlpha = true) → ∀ c ∈ word, c.isAlpha = true :=
    fun hlower c hc => isAlpha_of_toLower (hlower _ (List.mem_map_of_mem hc))
  rcases h with rfl | hword | hword
  · exact ⟨List.cons_ne_nil _ _, List.all_eq_true.mp (by cases u <;> decide)⟩
  · rw [← hword] at hname hne
    exact ⟨fun hnil => hne (by rw [hnil]; rfl), hletters hname⟩
  · refine ⟨?_, hletters ?_⟩
    · rintro rfl
      exact List.append_ne_nil_of_right_ne_nil _ (List.cons_ne_nil _ _) hword.symm
    · rw [hword]
      simpa [or_imp, forall_and] using hname

/-- A text of an amount in digits and a word in letters, with blanks around both. -/
structure Shape (cs amount word : List Char) : Prop where
  cut : ∃ lead gap trail, cs = lead ++ (amount ++ (gap ++ (word ++ trail))) ∧
    ∀ c ∈ lead ++ (gap ++ trail), Text.isBlank c = true
  amount_ne : amount ≠ []
  digits : ∀ c ∈ amount, Text.isDigit c = true
  word_ne : word ≠ []
  letters : ∀ c ∈ word, c.isAlpha = true

/-- A text is split exactly when it has an amount and a word, and then into these two. -/
theorem split?_eq_some_iff {cs amount : List Char} :
    split? cs = some (amount, word) ↔ Shape cs amount word := by
  constructor
  · intro h
    dsimp only [split?] at h
    split_ifs at h with hparts
    simp only [not_or, Bool.not_eq_false, List.all_eq_true] at hparts
    obtain ⟨hamount, hword, htrail⟩ := hparts
    obtain ⟨rfl, rfl⟩ := Prod.mk.inj (Option.some.inj h)
    refine ⟨⟨cs.takeWhile Text.isBlank,
      ((cs.dropWhile Text.isBlank).dropWhile Text.isDigit).takeWhile Text.isBlank,
      (((cs.dropWhile Text.isBlank).dropWhile Text.isDigit).dropWhile Text.isBlank).dropWhile Char.isAlpha,
      ?_, ?_⟩, hamount, Text.forall_mem_takeWhile _ _, hword, Text.forall_mem_takeWhile _ _⟩
    · simp only [List.takeWhile_append_dropWhile]
    · simp only [List.mem_append, or_imp, forall_and]
      exact ⟨Text.forall_mem_takeWhile _ _, Text.forall_mem_takeWhile _ _, htrail⟩
  · rintro ⟨⟨lead, gap, trail, rfl, hblank⟩, hamount, hdigits, hword, hletters⟩
    simp only [List.mem_append, or_imp, forall_and] at hblank
    obtain ⟨hlead, hgap, htrail⟩ := hblank
    have hstart := Text.stops_append hamount (fun c hc => Text.isBlank_of_isDigit (hdigits c hc))
      (gap ++ (word ++ trail))
    have hgap' : Text.Stops Text.isDigit (gap ++ (word ++ trail)) := by
      apply Text.stops_of_forall
      simp only [List.mem_append, or_imp, forall_and]
      exact ⟨fun c hc => Text.isDigit_of_isBlank (hgap c hc), fun c hc => Text.isDigit_of_isAlpha (hletters c hc),
        fun c hc => Text.isDigit_of_isBlank (htrail c hc)⟩
    have hword' := Text.stops_append hword (fun c hc => Text.isBlank_of_isAlpha (hletters c hc)) trail
    have htrail' : Text.Stops Char.isAlpha trail :=
      Text.stops_of_forall fun c hc => Text.isAlpha_of_isBlank (htrail c hc)
    dsimp only [split?]
    rw [Text.dropWhile_eq_of_stops hlead hstart, Text.takeWhile_eq_of_stops hdigits hgap',
      Text.dropWhile_eq_of_stops hdigits hgap', Text.dropWhile_eq_of_stops hgap hword',
      Text.takeWhile_eq_of_stops hletters htrail', Text.dropWhile_eq_of_stops hletters htrail', if_neg]
    simp only [not_or, Bool.not_eq_false, List.all_eq_true]
    exact ⟨hamount, hword, htrail⟩

/-- A text of the grammar: an amount that has no more digits than the limit, and a spelling of the unit. -/
structure Written (limit : DigitLimit) (text : String) (amount : List Char) (u : TimeUnit) : Prop where
  cut : ∃ lead gap word trail, text.toList = lead ++ (amount ++ (gap ++ (word ++ trail))) ∧ u.Spells word ∧
    ∀ c ∈ lead ++ (gap ++ trail), Text.isBlank c = true
  amount_ne : amount ≠ []
  digits : ∀ c ∈ amount, Text.isDigit c = true
  within : ∀ most ∈ limit, amount.length ≤ most

variable {limit : DigitLimit} {text : String} {amount : List Char}

lemma readNumeral_eq_ok_iff {n : Nat} : Text.readNumeral limit amount = .ok n ↔
    (∀ most ∈ limit, amount.length ≤ most) ∧ Text.placeValue amount = n := by
  rw [Text.placeValue_eq]
  cases limit with
  | none => simp [Text.readNumeral, DigitLimit.textFault?]
  | some most =>
    by_cases hlt : most < amount.length
    · simp [Text.readNumeral, DigitLimit.textFault?, hlt]
    · simp [Text.readNumeral, DigitLimit.textFault?, hlt, Nat.le_of_not_lt hlt]

lemma le_longest_iff (seconds : Nat) : 1000000 * seconds ≤ longest ↔ seconds < 86400000000000 := by
  unfold longest mostDays
  omega

/-- What reading a text of the grammar comes to. -/
lemma parseWithin_of_written (h : Written limit text amount u) : parseWithin limit text =
    if hlt : Text.placeValue amount * u.seconds < 86400000000000 then .ok ⟨_, hlt⟩
    else .error (.tooLong (Text.placeValue amount * u.seconds / 86400)) := by
  obtain ⟨⟨lead, gap, word, trail, hcut, hword, hblank⟩, hamount, hdigits, hwithin⟩ := h
  obtain ⟨hne, hletters⟩ := hword.letters
  have hsplit : split? text.toList = some (amount, word) :=
    split?_eq_some_iff.mpr ⟨⟨lead, gap, trail, hcut, hblank⟩, hamount, hdigits, hne, hletters⟩
  have hunit : unitSeconds? word = some u.seconds := unitSeconds?_eq_some_iff.mpr ⟨u, hword, rfl⟩
  have hread := readNumeral_eq_ok_iff.mpr ⟨hwithin, rfl⟩
  simp only [parseWithin, hsplit, hread, hunit]

lemma parseWithin_eq_ok_iff (h : Written limit text amount u) (d : Duration) :
    parseWithin limit text = .ok d ↔ 1000000 * (Text.placeValue amount * u.seconds) ≤ longest ∧
      d.seconds = Text.placeValue amount * u.seconds := by
  rw [parseWithin_of_written h, le_longest_iff]
  by_cases hlt : Text.placeValue amount * u.seconds < 86400000000000
  · rw [dif_pos hlt, Except.ok.injEq, and_iff_right hlt]
    cases d
    simp [eq_comm]
  · rw [dif_neg hlt]
    refine iff_of_false ?_ fun hd => hlt hd.1
    rintro ⟨⟩

lemma parseWithin_eq_tooLong_iff (h : Written limit text amount u) :
    (∃ days, parseWithin limit text = .error (.tooLong days)) ↔
      longest < 1000000 * (Text.placeValue amount * u.seconds) := by
  have hlong := (le_longest_iff (Text.placeValue amount * u.seconds)).not
  rw [not_le] at hlong
  rw [parseWithin_of_written h, hlong]
  by_cases hlt : Text.placeValue amount * u.seconds < 86400000000000
  · rw [dif_pos hlt]
    refine iff_of_false ?_ (not_not.mpr hlt)
    rintro ⟨days, ⟨⟩⟩
  · rw [dif_neg hlt]
    exact iff_of_true ⟨_, rfl⟩ hlt

/-- All other texts are refused, and not because they are too long. -/
lemma parseWithin_of_not_written (h : ¬∃ amount u, Written limit text amount u) :
    ∃ fault, parseWithin limit text = .error fault ∧ fault.isTooLong = false := by
  unfold parseWithin
  cases hsplit : split? text.toList with
  | none => exact ⟨_, rfl, rfl⟩
  | some parts =>
    obtain ⟨amount, word⟩ := parts
    obtain ⟨⟨lead, gap, trail, hcut, hblank⟩, hamount, hdigits, -, -⟩ := split?_eq_some_iff.mp hsplit
    dsimp only
    cases hread : Text.readNumeral limit amount with
    | error fault => exact ⟨_, rfl, rfl⟩
    | ok n =>
      cases hunit : unitSeconds? word with
      | none => exact ⟨_, rfl, rfl⟩
      | some length =>
        obtain ⟨u, hword, -⟩ := unitSeconds?_eq_some_iff.mp hunit
        obtain ⟨hwithin, -⟩ := readNumeral_eq_ok_iff.mp hread
        exact absurd ⟨amount, u, ⟨lead, gap, word, trail, hcut, hword, hblank⟩, hamount, hdigits, hwithin⟩ h

/-- A text is read as a duration exactly when it is of the grammar and its amount of units is not longer
than every span of time; the duration then is that amount of the unit. It is too long exactly when it is of
the grammar and longer, and every other text is refused as malformed. Without a limit nothing is asked of
the number of digits. -/
theorem parseWithin_accepts_grammar (limit : DigitLimit) (text : String) :
    (∀ d, parseWithin limit text = .ok d ↔ ∃ amount u, Written limit text amount u ∧
      1000000 * (Text.placeValue amount * u.seconds) ≤ longest ∧
      d.seconds = Text.placeValue amount * u.seconds) ∧
    ((∃ days, parseWithin limit text = .error (.tooLong days)) ↔ ∃ amount u, Written limit text amount u ∧
      longest < 1000000 * (Text.placeValue amount * u.seconds)) ∧
    ((∃ fault, parseWithin limit text = .error fault ∧ fault.isTooLong = false) ↔
      ¬∃ amount u, Written limit text amount u) := by
  by_cases hwritten : ∃ amount u, Written limit text amount u
  · obtain ⟨amount, u, h⟩ := hwritten
    refine ⟨fun d => ⟨?_, ?_⟩, ⟨?_, ?_⟩, ?_⟩
    · intro hd
      exact ⟨amount, u, h, (parseWithin_eq_ok_iff h d).mp hd⟩
    · rintro ⟨amount', u', h', hd⟩
      exact (parseWithin_eq_ok_iff h' d).mpr hd
    · intro hlong
      exact ⟨amount, u, h, (parseWithin_eq_tooLong_iff h).mp hlong⟩
    · rintro ⟨amount', u', h', hlong⟩
      exact (parseWithin_eq_tooLong_iff h').mpr hlong
    · refine iff_of_false ?_ (not_not.mpr ⟨amount, u, h⟩)
      rintro ⟨fault, hfault, hnot⟩
      rw [parseWithin_of_written h] at hfault
      split_ifs at hfault
      cases hfault
      cases hnot
  · obtain ⟨fault, hfault, hnot⟩ := parseWithin_of_not_written hwritten
    refine ⟨fun d => iff_of_false ?_ ?_, iff_of_false ?_ ?_, iff_of_true ⟨fault, hfault, hnot⟩ hwritten⟩
    · rw [hfault]
      rintro ⟨⟩
    · rintro ⟨amount, u, h, -⟩
      exact hwritten ⟨amount, u, h⟩
    · rintro ⟨days, hdays⟩
      rw [hfault] at hdays
      cases hdays
      cases hnot
    · rintro ⟨amount, u, h, -⟩
      exact hwritten ⟨amount, u, h⟩

example : (parseWithin .standard "2 Weeks").toOption.map Duration.seconds = some 1209600 := by decide +kernel

-- Digits of any script, and blanks where they may stand.
example : (parseWithin .standard " ٣٠m ").toOption.map Duration.seconds = some 1800 := by decide +kernel

end Duration

end Triage
