import Mathlib
import Triage.Proofs.CalendarDays
import Triage.Proofs.JsonTokens
import Triage.Time.Moment

/-!
# Timestamps as texts

A timestamp is made of numbers of fixed width between marks, after a year that has as many digits as it
needs. So the second that it denotes can be read back from it, and timestamps of years with four digits
are ordered as texts in the same way as in time.
-/

namespace Triage

namespace Text

lemma append_lt_append_iff {a b x y : List Char} (h : a.length = b.length) :
    a ++ x < b ++ y ↔ a < b ∨ a = b ∧ x < y := by
  induction a generalizing b with
  | nil =>
    obtain rfl := List.length_eq_zero_iff.mp h.symm
    simp
  | cons c a ih =>
    cases b with
    | nil => cases h
    | cons d b =>
      have hrest := ih (Nat.succ.inj h)
      rw [List.cons_append, List.cons_append, List.cons_lt_cons_iff, List.cons_lt_cons_iff, hrest,
        List.cons.injEq]
      tauto

lemma length_ofNat_le {width n : Nat} (hw : 0 < width) (hn : n < 10 ^ width) :
    (ofNat n).length ≤ width :=
  (Nat.length_toDigits_le_iff (by decide) hw).mpr hn

lemma length_padded {width n : Nat} (hw : 0 < width) (hn : n < 10 ^ width) :
    (padded width n).length = width := by
  have hle := length_ofNat_le hw hn
  rw [padded, List.length_append, List.length_replicate]
  omega

/-- The last digit stands behind those of the tenth part. -/
lemma padded_succ {width : Nat} (hw : 0 < width) (n : Nat) :
    padded (width + 1) n = padded width (n / 10) ++ [(n % 10).digitChar] := by
  have hdigits : ofNat n = if n < 10 then [n.digitChar] else ofNat (n / 10) ++ [(n % 10).digitChar] :=
    Nat.toDigits_eq_if (by decide)
  unfold padded
  by_cases hn : n < 10
  · obtain ⟨w, rfl⟩ := Nat.exists_eq_succ_of_ne_zero hw.ne'
    have hzero : ofNat 0 = ['0'] := by decide
    rw [hdigits, if_pos hn, Nat.div_eq_of_lt hn, Nat.mod_eq_of_lt hn, hzero]
    simp only [List.length_singleton, Nat.succ_eq_add_one, Nat.add_sub_cancel, List.replicate_succ',
      List.append_assoc]
  · rw [hdigits, if_neg hn]
    simp only [List.length_append, List.length_singleton, Nat.add_sub_add_right, List.append_assoc]

lemma digitChar_lt_iff {m n : Nat} (hm : m < 10) (hn : n < 10) :
    m.digitChar < n.digitChar ↔ m < n := by
  rw [Char.lt_def, UInt32.lt_iff_toNat_lt]
  change m.digitChar.toNat < n.digitChar.toNat ↔ m < n
  rw [Nat.toNat_digitChar_of_lt_ten hm, Nat.toNat_digitChar_of_lt_ten hn]
  omega

/-- Numerals of one width stand in the order of their numbers. -/
lemma strictMonoOn_padded {width : Nat} (hw : 0 < width) :
    StrictMonoOn (padded width) (Set.Iio (10 ^ width)) := by
  induction width, hw using Nat.le_induction with
  | base =>
    intro m hm n hn hlt
    have hone : ∀ k, k < 10 → padded 1 k = [k.digitChar] := by
      intro k hk
      have hdigits : ofNat k = [k.digitChar] := Nat.toDigits_of_lt_base hk
      rw [padded, hdigits]
      rfl
    rw [hone m hm, hone n hn, List.cons_lt_cons_iff]
    exact .inl ((digitChar_lt_iff hm hn).mpr hlt)
  | succ width hw ih =>
    intro m hm n hn hlt
    have hpos : 0 < width := hw
    rw [Set.mem_Iio, pow_succ] at hm hn
    have hm' : m / 10 < 10 ^ width := by omega
    have hn' : n / 10 < 10 ^ width := by omega
    have hlength : (padded width (m / 10)).length = (padded width (n / 10)).length := by
      rw [length_padded hpos hm', length_padded hpos hn']
    rw [padded_succ hpos, padded_succ hpos, append_lt_append_iff hlength, List.cons_lt_cons_iff,
      digitChar_lt_iff (Nat.mod_lt m (by decide)) (Nat.mod_lt n (by decide))]
    by_cases hfront : m / 10 < n / 10
    · exact .inl (ih hm' hn' hfront)
    · have heq : m / 10 = n / 10 := by omega
      exact .inr ⟨congrArg _ heq, .inl (by omega)⟩

/-- Numbers of one width in front of texts decide on the order of these texts, if they differ. -/
lemma padded_append_lt_iff {width m n : Nat} {c : Char} {x y : List Char} (hw : 0 < width)
    (hm : m < 10 ^ width) (hn : n < 10 ^ width) :
    padded width m ++ c :: x < padded width n ++ c :: y ↔ m < n ∨ m = n ∧ x < y := by
  have hlength : (padded width m).length = (padded width n).length := by
    rw [length_padded hw hm, length_padded hw hn]
  have hmono := strictMonoOn_padded hw
  rw [append_lt_append_iff hlength, hmono.lt_iff_lt hm hn, hmono.injOn.eq_iff hm hn,
    List.cons_lt_cons_self]

lemma isDigit_of_mem_padded {width n : Nat} {c : Char} (h : c ∈ padded width n) : c.isDigit = true := by
  rcases List.mem_append.mp h with hzero | hdigit
  · rw [List.eq_of_mem_replicate hzero]
    rfl
  · exact isDigit_of_mem_ofNat hdigit

lemma numeralIn_padded (width n : Nat) : numeralIn 10 (padded width n) = n := by
  have hzeros : ∀ k : Nat, ∀ ds, numeralIn 10 (List.replicate k '0' ++ ds) = numeralIn 10 ds := by
    intro k ds
    induction k with
    | zero => rfl
    | succ k ih => exact ih
  rw [padded, hzeros, numeralIn_ofNat]

end Text

namespace Date

/-- The second of a day on a date, counted from the start of year 1. -/
def secondOf (d : Date) (secondOfDay : Nat) : Nat := d.dayNumber * 86400 + secondOfDay

end Date

namespace Moment

/-- A number of two digits behind a mark. -/
def markedNumber? (mark : Char) : List Char → Option (Nat × List Char)
  | [] => none
  | c :: cs => if c = mark then digitsAt? 2 cs else none

/-- The second that a timestamp denotes, counted from the start of year 1 in UTC. -/
def readStamp? (cs : List Char) : Option Nat := do
  let year := Text.numeralIn 10 (cs.takeWhile Char.isDigit)
  let (month, rest) ← markedNumber? '-' (cs.dropWhile Char.isDigit)
  let (day, rest) ← markedNumber? '-' rest
  let (hour, rest) ← markedNumber? 'T' rest
  let (minute, rest) ← markedNumber? ':' rest
  let (second, rest) ← markedNumber? ':' rest
  if rest = ['Z'] then some (Date.secondOf ⟨year, month, day⟩ ((hour * 60 + minute) * 60 + second))
  else none

lemma digitsAt?_padded {width n : Nat} (hw : 0 < width) (hn : n < 10 ^ width) (rest : List Char) :
    digitsAt? width (Text.padded width n ++ rest) = some (n, rest) := by
  have hlength := Text.length_padded hw hn
  have htake : (Text.padded width n ++ rest).take width = Text.padded width n := by
    rw [List.take_append_of_le_length hlength.ge, List.take_of_length_le hlength.le]
  have hdrop : (Text.padded width n ++ rest).drop width = rest := List.drop_left' hlength
  have hall : (Text.padded width n).all Char.isDigit = true :=
    List.all_eq_true.mpr fun c hc => Text.isDigit_of_mem_padded hc
  simp only [digitsAt?, htake, hdrop, hall, hlength, Text.numeralIn_padded, decide_true, Bool.and_self,
    if_true]

lemma markedNumber?_padded (mark : Char) {n : Nat} (hn : n < 100) (rest : List Char) :
    markedNumber? mark (mark :: (Text.padded 2 n ++ rest)) = some (n, rest) := by
  rw [markedNumber?, if_pos rfl]
  exact digitsAt?_padded (by decide) hn rest

/-- Hours, minutes and seconds of a day. -/
lemma secondOfDay_lt (m : Moment) : m.secondOfDay < 86400 := by
  unfold secondOfDay dayTicks
  omega

lemma exists_date (m : Moment) : m.date.Exists := (Date.ofDayNumber_spec _).1

/-- The second of a moment's reading, counted from the start of year 1, is that of its date and its
second of the day. -/
lemma secondOf_date (m : Moment) : Date.secondOf m.date m.secondOfDay = m.ticks / 1000000 := by
  have hday : m.date.dayNumber = m.ticks / dayTicks := (Date.ofDayNumber_spec _).2
  rw [Date.secondOf, hday, secondOfDay, dayTicks]
  omega

/-- The parts of a timestamp, each behind its mark. -/
lemma wallText_eq (m : Moment) : m.wallText = Text.padded 1 m.date.year ++ '-' ::
    (Text.padded 2 m.date.month ++ '-' :: (Text.padded 2 m.date.day ++ 'T' ::
      (Text.padded 2 (m.secondOfDay / 3600) ++ ':' :: (Text.padded 2 (m.secondOfDay / 60 % 60) ++ ':' ::
        (Text.padded 2 (m.secondOfDay % 60) ++ ['Z']))))) := by
  simp only [wallText, clockText, Date.text, List.append_assoc, List.cons_append]

lemma month_lt (m : Moment) : m.date.month < 100 := by
  have hle := m.exists_date.month_le
  omega

lemma day_lt (m : Moment) : m.date.day < 100 := by
  have hle := m.exists_date.day_le
  have hmost := Date.daysInMonth_le m.date.year m.date.month
  omega

/-- Reading a timestamp gives the second of the moment it was made for. -/
theorem readStamp?_wallText (m : Moment) : readStamp? m.wallText = some (m.ticks / 1000000) := by
  have hsecond := m.secondOfDay_lt
  have hyear : ∀ c ∈ Text.padded 1 m.date.year, c.isDigit = true := by
    intro c hc
    exact Text.isDigit_of_mem_padded hc
  have hmark (rest : List Char) : ('-' :: rest).takeWhile Char.isDigit = [] := rfl
  have hrest (rest : List Char) : ('-' :: rest).dropWhile Char.isDigit = '-' :: rest := rfl
  have hclock : (m.secondOfDay / 3600 * 60 + m.secondOfDay / 60 % 60) * 60 + m.secondOfDay % 60 =
      m.secondOfDay := by omega
  rw [wallText_eq, readStamp?, List.takeWhile_append_of_pos hyear, List.dropWhile_append_of_pos hyear,
    hmark, hrest, List.append_nil, Text.numeralIn_padded, markedNumber?_padded '-' m.month_lt]
  simp only [Option.bind_eq_bind, Option.bind_some, markedNumber?_padded '-' m.day_lt,
    markedNumber?_padded 'T' (show m.secondOfDay / 3600 < 100 by omega),
    markedNumber?_padded ':' (show m.secondOfDay / 60 % 60 < 100 by omega),
    markedNumber?_padded ':' (show m.secondOfDay % 60 < 100 by omega), if_true, hclock]
  exact congrArg some m.secondOf_date

lemma year_lt (m : Moment) : m.date.year < 10 ^ 4 := by
  have hlt := m.ticks_lt
  rw [maxTicks, Nat.mul_comm] at hlt
  have hle : m.date.year ≤ 9999 := Date.year_ofDayNumber_le (Nat.div_lt_of_lt_mul hlt)
  omega

/-- A year with four digits is as wide as all of them. -/
lemma padded_year {year : Nat} (h : 1000 ≤ year) : Text.padded 1 year = Text.padded 4 year := by
  have hlength : ¬(Text.ofNat year).length ≤ 3 := by
    rw [Text.ofNat, Nat.length_toDigits_le_iff (by decide) (by decide)]
    omega
  have hone : 1 - (Text.ofNat year).length = 0 := by omega
  have hfour : 4 - (Text.ofNat year).length = 0 := by omega
  rw [Text.padded, Text.padded, hone, hfour]

/-- In years with four digits timestamps are in the order of time. -/
theorem wallText_lt_iff {m n : Moment} (hm : 1000 ≤ m.date.year) (hn : 1000 ≤ n.date.year) :
    m.wallText < n.wallText ↔ m.ticks / 1000000 < n.ticks / 1000000 := by
  have hsecond := m.secondOfDay_lt
  have hsecond' := n.secondOfDay_lt
  have hhour : m.secondOfDay / 3600 < 10 ^ 2 := by omega
  have hhour' : n.secondOfDay / 3600 < 10 ^ 2 := by omega
  have hminute : m.secondOfDay / 60 % 60 < 10 ^ 2 := by omega
  have hminute' : n.secondOfDay / 60 % 60 < 10 ^ 2 := by omega
  have hrest : m.secondOfDay % 60 < 10 ^ 2 := by omega
  have hrest' : n.secondOfDay % 60 < 10 ^ 2 := by omega
  have hdates : m.date.Before n.date ↔ m.ticks / dayTicks < n.ticks / dayTicks :=
    Date.before_ofDayNumber_iff _ _
  have hdates' : n.date.Before m.date ↔ n.ticks / dayTicks < m.ticks / dayTicks :=
    Date.before_ofDayNumber_iff _ _
  have hfour : 0 < 4 := by decide
  have htwo : 0 < 2 := by decide
  rw [wallText_eq, wallText_eq, padded_year hm, padded_year hn,
    Text.padded_append_lt_iff hfour m.year_lt n.year_lt,
    Text.padded_append_lt_iff htwo m.month_lt n.month_lt,
    Text.padded_append_lt_iff htwo m.day_lt n.day_lt, Text.padded_append_lt_iff htwo hhour hhour',
    Text.padded_append_lt_iff htwo hminute hminute', Text.padded_append_lt_iff htwo hrest hrest']
  -- the parts compare as the numbers of the days, and then as the seconds of the day
  have hday : m.ticks / 1000000 = m.ticks / dayTicks * 86400 + m.secondOfDay := by
    unfold secondOfDay dayTicks
    omega
  have hday' : n.ticks / 1000000 = n.ticks / dayTicks * 86400 + n.secondOfDay := by
    unfold secondOfDay dayTicks
    omega
  rw [hday, hday']
  unfold Date.Before at hdates hdates'
  clear hday hday' hm hn
  generalize m.ticks / dayTicks = k at *
  generalize n.ticks / dayTicks = l at *
  generalize m.secondOfDay = s at *
  generalize n.secondOfDay = s' at *
  simp only [lt_self_iff_false, and_false, or_false]
  omega

end Moment

end Triage
