import Mathlib
import Triage.Time.Date

/-!
# Days of the calendar

Every day number belongs to exactly one date: counting the days before a date gives the number back,
and later numbers have later dates. The dates of the calendar's days are those of the years 1 to 9999.
-/

namespace Triage.Date

/-- The number of days in a year. -/
def daysInYear (year : Nat) : Nat := if isLeap year then 366 else 365

lemma sum_monthLengths (year : Nat) : (monthLengths year).sum = daysInYear year := by
  unfold monthLengths daysInYear
  cases isLeap year <;> rfl

lemma daysBeforeMonth_eq (year month : Nat) :
    daysBeforeMonth year month = ((monthLengths year).take (month - 1)).sum :=
  List.sum_eq_foldl.symm

lemma daysBeforeYear_succ {year : Nat} (hy : 1 ≤ year) :
    daysBeforeYear (year + 1) = daysBeforeYear year + daysInYear year := by
  obtain ⟨y, rfl⟩ : ∃ y, year = y + 1 := ⟨year - 1, by omega⟩
  have h4 : (y + 1) / 4 = y / 4 + if (y + 1) % 4 = 0 then 1 else 0 := by split_ifs <;> omega
  have h100 : (y + 1) / 100 = y / 100 + if (y + 1) % 100 = 0 then 1 else 0 := by split_ifs <;> omega
  have h400 : (y + 1) / 400 = y / 400 + if (y + 1) % 400 = 0 then 1 else 0 := by split_ifs <;> omega
  have hle : y / 100 ≤ y / 4 := Nat.div_le_div_left (by decide) (by decide)
  have hmod : (y + 1) % 400 = 0 → (y + 1) % 100 = 0 := by omega
  have hmod' : (y + 1) % 100 = 0 → (y + 1) % 4 = 0 := by omega
  simp only [daysBeforeYear, Nat.add_sub_cancel, h4, h100, h400, daysInYear, isLeap, Bool.and_eq_true,
    Bool.or_eq_true, beq_iff_eq, bne_iff_ne]
  clear h4 h100 h400
  split_ifs <;> omega

lemma daysBeforeYear_add_le {year later : Nat} (hy : 1 ≤ year) (hlt : year < later) :
    daysBeforeYear year + daysInYear year ≤ daysBeforeYear later := by
  obtain ⟨k, rfl⟩ := Nat.exists_eq_add_of_lt hlt
  induction k with
  | zero => exact (daysBeforeYear_succ hy).ge
  | succ k ih =>
    have hnext : daysBeforeYear (year + k + 1 + 1) =
        daysBeforeYear (year + k + 1) + daysInYear (year + k + 1) := daysBeforeYear_succ (by omega)
    have hstep := ih (by omega)
    rw [← add_assoc, hnext]
    omega

/-- Cycles of 400 years, centuries, cycles of four years and single years, each with its days. -/
lemma daysBeforeYear_parts (a : Nat) {b c d : Nat} (hb : b ≤ 3) (hc : c ≤ 24) (hd : d ≤ 3) :
    daysBeforeYear (400 * a + 100 * b + 4 * c + d + 1) =
      146097 * a + 36524 * b + 1461 * c + 365 * d := by
  have h4 : (400 * a + 100 * b + 4 * c + d) / 4 = 100 * a + 25 * b + c := by omega
  have h100 : (400 * a + 100 * b + 4 * c + d) / 100 = 4 * a + b := by omega
  have h400 : (400 * a + 100 * b + 4 * c + d) / 400 = a := by omega
  rw [daysBeforeYear]
  simp only [Nat.add_sub_cancel, h4, h100, h400]
  omega

lemma isLeap_parts (a : Nat) {b c d : Nat} (hb : b ≤ 3) (hc : c ≤ 24) (hd : d ≤ 3) :
    isLeap (400 * a + 100 * b + 4 * c + d + 1) = true ↔ d = 3 ∧ (c ≠ 24 ∨ b = 3) := by
  simp only [isLeap, Bool.and_eq_true, Bool.or_eq_true, beq_iff_eq, bne_iff_ne]
  omega

/-- The year of a day number and the days before it in that year. -/
lemma yearAndRest_spec (n : Nat) : 1 ≤ (yearAndRest n).1 ∧
    daysBeforeYear (yearAndRest n).1 + (yearAndRest n).2 = n ∧
    (yearAndRest n).2 < daysInYear (yearAndRest n).1 := by
  unfold yearAndRest
  dsimp only
  generalize ha : n / 146097 = a
  generalize hr : n % 146097 = r
  generalize hb : min 3 (r / 36524) = b
  generalize hs : r - 36524 * b = s
  generalize hc : s / 1461 = c
  generalize hq : s % 1461 = q
  generalize hd : min 3 (q / 365) = d
  have hb3 : b ≤ 3 := by omega
  have hc24 : c ≤ 24 := by omega
  have hd3 : d ≤ 3 := by omega
  have hleap := isLeap_parts a hb3 hc24 hd3
  rw [daysBeforeYear_parts a hb3 hc24 hd3, daysInYear]
  refine ⟨Nat.le_add_left 1 _, by omega, ?_⟩
  split_ifs with h
  · omega
  · rw [hleap] at h
    omega

/-- Counting days through months ends in one of them, at the days that the earlier ones leave. -/
lemma monthAndDay_spec {lengths : List Nat} (month : Nat) {rest : Nat} (h : rest < lengths.sum) :
    ∃ k length day, lengths[k]? = some length ∧ monthAndDay lengths month rest = (month + k, day + 1) ∧
      (lengths.take k).sum + day = rest ∧ day < length := by
  induction lengths generalizing month rest with
  | nil => exact absurd h (Nat.not_lt_zero _)
  | cons length later ih =>
    rw [monthAndDay]
    by_cases hlt : rest < length
    · rw [if_pos hlt]
      exact ⟨0, length, rest, rfl, rfl, Nat.zero_add rest, hlt⟩
    · rw [List.sum_cons] at h
      have hrest : rest - length < later.sum := by omega
      obtain ⟨k, last, day, hk, hmonth, hsum, hday⟩ := ih (month + 1) hrest
      rw [if_neg hlt, hmonth]
      refine ⟨k + 1, last, day, hk, by rw [Nat.add_right_comm, Nat.add_assoc], ?_, hday⟩
      rw [List.take_succ_cons, List.sum_cons]
      omega

/-- A date of some year: its month and day exist in it. -/
structure Exists (d : Date) : Prop where
  year_pos : 1 ≤ d.year
  month_pos : 1 ≤ d.month
  month_le : d.month ≤ 12
  day_pos : 1 ≤ d.day
  day_le : d.day ≤ daysInMonth d.year d.month

lemma length_monthLengths (year : Nat) : (monthLengths year).length = 12 := rfl

lemma daysInMonth_le (year month : Nat) : daysInMonth year month ≤ 31 := by
  have hall : ∀ length ∈ monthLengths year, length ≤ 31 := by
    unfold monthLengths
    cases isLeap year <;> decide
  unfold daysInMonth
  cases hlength : (monthLengths year)[month - 1]? with
  | none => exact Nat.zero_le 31
  | some length => exact hall length (List.mem_of_getElem? hlength)

/-- A day number is the count of days before its date, which exists. -/
theorem ofDayNumber_spec (n : Nat) : (ofDayNumber n).Exists ∧ (ofDayNumber n).dayNumber = n := by
  obtain ⟨hyear, hbefore, hrest⟩ := yearAndRest_spec n
  rcases hyr : yearAndRest n with ⟨y, rest⟩
  simp only [hyr] at hyear hbefore hrest
  rw [← sum_monthLengths] at hrest
  obtain ⟨k, length, day, hk, hmonth, hsum, hday⟩ := monthAndDay_spec 1 hrest
  have hdate : ofDayNumber n = ⟨y, 1 + k, day + 1⟩ := by simp only [ofDayNumber, hyr, hmonth]
  have hlt : k < 12 := by
    obtain ⟨hlt, -⟩ := List.getElem?_eq_some_iff.mp hk
    rwa [length_monthLengths] at hlt
  rw [hdate]
  constructor
  · refine ⟨hyear, Nat.le_add_right 1 k, by dsimp only; omega, Nat.le_add_left 1 day, ?_⟩
    rw [daysInMonth, Nat.add_sub_cancel_left, hk]
    exact hday
  · rw [dayNumber, daysBeforeMonth_eq]
    simp only [Nat.add_sub_cancel_left, Nat.add_sub_cancel]
    omega

/-- One date stands before another in the calendar. -/
def Before (d e : Date) : Prop :=
  d.year < e.year ∨ d.year = e.year ∧ (d.month < e.month ∨ d.month = e.month ∧ d.day < e.day)

lemma before_total (d e : Date) : d.Before e ∨ d = e ∨ e.Before d := by
  rcases d with ⟨y, m, d⟩
  rcases e with ⟨y', m', d'⟩
  simp only [Before, Date.mk.injEq]
  omega

lemma daysBeforeMonth_add_le (year : Nat) {month later : Nat} (hm : 1 ≤ month) (hlt : month < later)
    (hl : later ≤ 12) :
    daysBeforeMonth year month + daysInMonth year month ≤ daysBeforeMonth year later := by
  have hk : month - 1 < (monthLengths year).length := by
    rw [length_monthLengths]
    omega
  have hnext := List.sum_take_succ (monthLengths year) (month - 1) hk
  rw [daysBeforeMonth_eq, daysBeforeMonth_eq, daysInMonth, List.getElem?_eq_getElem hk,
    Option.getD_some, ← hnext]
  exact List.monotone_sum_take (monthLengths year) (by omega)

lemma Exists.dayOfYear_lt {d : Date} (h : d.Exists) :
    daysBeforeMonth d.year d.month + (d.day - 1) < daysInYear d.year := by
  have hfirst := h.month_pos
  have hlast := h.month_le
  have hk : d.month - 1 < (monthLengths d.year).length := by
    rw [length_monthLengths]
    omega
  have hday := h.day_le
  have hpos := h.day_pos
  have hnext := List.sum_take_succ (monthLengths d.year) (d.month - 1) hk
  have hall := List.monotone_sum_take (monthLengths d.year) (show d.month - 1 + 1 ≤ 12 by omega)
  rw [← sum_monthLengths, daysBeforeMonth_eq]
  rw [daysInMonth, List.getElem?_eq_getElem hk, Option.getD_some] at hday
  simp only [List.take_of_length_le (length_monthLengths d.year).le] at hall
  omega

lemma Before.dayNumber_lt {d e : Date} (hd : d.Exists) (he : e.Exists) (h : d.Before e) :
    d.dayNumber < e.dayNumber := by
  have hday := hd.day_le
  have hpos := hd.day_pos
  unfold dayNumber
  rcases h with hyear | ⟨hyear, hmonth | ⟨hmonth, hlater⟩⟩
  · have hrest := hd.dayOfYear_lt
    have hyears := daysBeforeYear_add_le hd.year_pos hyear
    omega
  · have hmonths := daysBeforeMonth_add_le d.year hd.month_pos hmonth he.month_le
    rw [← hyear]
    omega
  · rw [← hyear, ← hmonth]
    omega

/-- The dates of day numbers stand in the order of the numbers. -/
theorem before_ofDayNumber_iff (m n : Nat) : (ofDayNumber m).Before (ofDayNumber n) ↔ m < n := by
  obtain ⟨hm, hmn⟩ := ofDayNumber_spec m
  obtain ⟨hn, hnn⟩ := ofDayNumber_spec n
  constructor
  · intro h
    have hlt := h.dayNumber_lt hm hn
    rwa [hmn, hnn] at hlt
  · intro hlt
    rcases before_total (ofDayNumber m) (ofDayNumber n) with h | h | h
    · exact h
    · have heq : m = n := by rw [← hmn, ← hnn, h]
      omega
    · have hgt := h.dayNumber_lt hn hm
      omega

/-- The days of the calendar lie in the years that have four digits at most. -/
lemma year_ofDayNumber_le {n : Nat} (hn : n < dayCount) : (ofDayNumber n).year ≤ 9999 := by
  obtain ⟨hdate, hnumber⟩ := ofDayNumber_spec n
  by_contra hyear
  have hle : daysBeforeYear 9999 + daysInYear 9999 ≤ daysBeforeYear (ofDayNumber n).year :=
    daysBeforeYear_add_le (by decide) (Nat.lt_of_not_le hyear)
  have hcount : daysBeforeYear 9999 + daysInYear 9999 = dayCount := by decide
  rw [dayNumber] at hnumber
  omega

end Triage.Date
