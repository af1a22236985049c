import Mathlib
import Triage.Proofs.TimestampText
import Triage.Query.Clause

/-!
# The order of timestamps

A timestamp shows the whole second of UTC that a moment falls into, whatever the offset of its clock. So
in years with four digits timestamps are ordered as the seconds are, a longer duration never leads to a
later time, and the same instant on two clocks leads to the same query.
-/

namespace Triage

namespace Moment

/-- The instant of a moment, in microseconds of UTC since the start of year 1. -/
def instant (m : Moment) : Int := m.ticks - m.offset.getD 0

/-- The whole second of UTC that a moment falls into. -/
def second (m : Moment) : Int := m.instant / 1000000

/-- The moment a duration earlier on the clock of UTC; none when the calendar does not have its reading
on one of the two clocks. -/
def earlier? (m : Moment) (d : Duration) : Option Moment := (m.minus? d).bind toUtc?

variable {m u : Moment} {d : Duration}

lemma ofTicks?_eq_some {ticks : Int} {offset : Option Int} (h : ofTicks? ticks offset = some u) :
    (u.ticks : Int) = ticks ∧ u.offset = offset := by
  rw [ofTicks?] at h
  split_ifs at h with hticks
  obtain rfl := Option.some.inj h
  exact ⟨Int.toNat_of_nonneg hticks.1, rfl⟩

lemma eq_of_ticks {v : Moment} (hticks : u.ticks = v.ticks) (hoffset : u.offset = v.offset) : u = v := by
  cases u
  cases v
  simp_all

lemma second_of_toUtc? (h : m.toUtc? = some u) : m.second = (u.ticks / 1000000 : Nat) := by
  obtain ⟨hticks, -⟩ := ofTicks?_eq_some h
  rw [second, instant, ← hticks]
  rfl

lemma earlier?_eq_some (h : m.earlier? d = some u) :
    (u.ticks : Int) = m.instant - 1000000 * d.seconds ∧ u.offset = some 0 := by
  obtain ⟨w, hminus, hutc⟩ := Option.bind_eq_some_iff.mp h
  obtain ⟨hback, hoffset⟩ := ofTicks?_eq_some hminus
  obtain ⟨hticks, hzero⟩ := ofTicks?_eq_some hutc
  rw [hoffset] at hticks
  rw [instant]
  exact ⟨by omega, hzero⟩

lemma year_le_of_ticks_le {v : Moment} (h : v.ticks ≤ u.ticks) : v.date.year ≤ u.date.year := by
  by_contra hlt
  have hbefore : u.date.Before v.date := .inl (Nat.lt_of_not_le hlt)
  have hdays := (Date.before_ofDayNumber_iff _ _).mp hbefore
  have hle : v.ticks / dayTicks ≤ u.ticks / dayTicks := Nat.div_le_div_right h
  omega

/-- The timestamp that a moment in UTC shows. -/
def stamp (u : Moment) : String := String.ofList u.wallText

lemma readStamp?_stamp (u : Moment) : readStamp? u.stamp.toList = some (u.ticks / 1000000) := by
  rw [stamp, String.toList_ofList, readStamp?_wallText]

lemma stamp_lt_iff {v : Moment} (hu : 1000 ≤ u.date.year) (hv : 1000 ≤ v.date.year) :
    u.stamp < v.stamp ↔ u.ticks / 1000000 < v.ticks / 1000000 := by
  rw [stamp, stamp, String.lt_iff_toList_lt, String.toList_ofList, String.toList_ofList,
    wallText_lt_iff hu hv]

lemma stamp_le_iff {v : Moment} (hu : 1000 ≤ u.date.year) (hv : 1000 ≤ v.date.year) :
    u.stamp ≤ v.stamp ↔ u.ticks / 1000000 ≤ v.ticks / 1000000 := by
  rw [← not_lt, ← not_lt, stamp_lt_iff hv hu]

/-- Timestamps are in the order of the seconds that they show. -/
theorem timestamp?_order {a b v : Moment} (ha : a.toUtc? = some u) (hb : b.toUtc? = some v)
    (hu : 1000 ≤ u.date.year) (hv : 1000 ≤ v.date.year) :
    ∃ s t, a.timestamp? = some s ∧ b.timestamp? = some t ∧ (s < t ↔ a.second < b.second) ∧
      (s = t ↔ a.second = b.second) ∧ (t < s ↔ b.second < a.second) := by
  have hs : a.timestamp? = some u.stamp := by
    rw [timestamp?, ha]
    rfl
  have ht : b.timestamp? = some v.stamp := by
    rw [timestamp?, hb]
    rfl
  have hequal : u.stamp = v.stamp ↔ u.ticks / 1000000 = v.ticks / 1000000 := by
    rw [le_antisymm_iff, le_antisymm_iff, stamp_le_iff hu hv, stamp_le_iff hv hu]
  refine ⟨u.stamp, v.stamp, hs, ht, ?_⟩
  rw [stamp_lt_iff hu hv, stamp_lt_iff hv hu, hequal, second_of_toUtc? ha, second_of_toUtc? hb]
  omega

end Moment

namespace Query

/-- A duration that the calendar can go back leads to a clause with a timestamp. -/
lemma olderThan_earlier (field : TimeField) {text : String} {d : Duration} {now u : Moment}
    (hd : Duration.parse text = .ok d) (hu : now.earlier? d = some u) :
    olderThan field text now = .ok (.olderThan field u.stamp) := by
  obtain ⟨w, hminus, hutc⟩ := Option.bind_eq_some_iff.mp hu
  have htimestamp : w.timestamp? = some u.stamp := by
    rw [Moment.timestamp?, hutc]
    rfl
  rw [olderThan, hd]
  simp only [hminus, Option.bind_some, htimestamp]

/-- Timestamps are ordered in time: in years with four digits the texts are in the order of the whole
seconds of UTC. So of two durations the longer one does not lead to a later time, and the clause of a
duration depends on the instant of the current moment alone. -/
theorem timestamps_in_order :
    (∀ a b u v : Moment, a.toUtc? = some u → b.toUtc? = some v →
      1000 ≤ u.date.year → 1000 ≤ v.date.year →
      ∃ s t, a.timestamp? = some s ∧ b.timestamp? = some t ∧ (s < t ↔ a.second < b.second) ∧
        (s = t ↔ a.second = b.second) ∧ (t < s ↔ b.second < a.second)) ∧
    (∀ (field : TimeField) (now u v : Moment) (short long : String) (d e : Duration),
      Duration.parse short = .ok d → Duration.parse long = .ok e → d.seconds ≤ e.seconds →
      now.earlier? d = some u → now.earlier? e = some v →
      ∃ s t second earlier, olderThan field short now = .ok (.olderThan field s) ∧
        olderThan field long now = .ok (.olderThan field t) ∧
        Moment.readStamp? s.toList = some second ∧ Moment.readStamp? t.toList = some earlier ∧
        earlier ≤ second ∧ (1000 ≤ v.date.year → t ≤ s)) ∧
    (∀ (field : TimeField) (now now' u v : Moment) (text : String) (d : Duration),
      Duration.parse text = .ok d → now.instant = now'.instant →
      now.earlier? d = some u → now'.earlier? d = some v →
      ∃ clause, olderThan field text now = .ok clause ∧ olderThan field text now' = .ok clause) := by
  refine ⟨fun a b u v => Moment.timestamp?_order, ?_, ?_⟩
  · intro field now u v short long d e hd he hle hu hv
    obtain ⟨hticks, -⟩ := Moment.earlier?_eq_some hu
    obtain ⟨hticks', -⟩ := Moment.earlier?_eq_some hv
    have hback : v.ticks ≤ u.ticks := by omega
    have hseconds : v.ticks / 1000000 ≤ u.ticks / 1000000 := Nat.div_le_div_right hback
    refine ⟨u.stamp, v.stamp, _, _, olderThan_earlier field hd hu, olderThan_earlier field he hv,
      u.readStamp?_stamp, v.readStamp?_stamp, hseconds, ?_⟩
    intro hyear
    have hlater : 1000 ≤ u.date.year := hyear.trans (Moment.year_le_of_ticks_le hback)
    exact (Moment.stamp_le_iff hyear hlater).mpr hseconds
  · intro field now now' u v text d hd hinstant hu hv
    obtain ⟨hticks, hoffset⟩ := Moment.earlier?_eq_some hu
    obtain ⟨hticks', hoffset'⟩ := Moment.earlier?_eq_some hv
    have hsame : u = v := Moment.eq_of_ticks (by omega) (hoffset.trans hoffset'.symm)
    rw [← hsame] at hv
    exact ⟨_, olderThan_earlier field hd hu, olderThan_earlier field hd hv⟩

/-- Half a second before the end of a leap day, on a clock without an offset. -/
def leapNight : Moment := ⟨63844847999500000, none, by decide⟩

/-- The half past five of the next morning, on a clock that shows as much when a day begins in UTC. -/
def marchMorning : Moment := ⟨63844867800000000, some 19800000000, by decide⟩

def marchMidnight : Moment := ⟨63844848000000000, some 0, by decide⟩

theorem timestamps_in_order_marchMorning :
    (∃ u v, leapNight.toUtc? = some u ∧ marchMorning.toUtc? = some v ∧
      1000 ≤ u.date.year ∧ 1000 ≤ v.date.year ∧
      ∃ s t, leapNight.timestamp? = some s ∧ marchMorning.timestamp? = some t ∧
        (s < t ↔ leapNight.second < marchMorning.second) ∧
        (s = t ↔ leapNight.second = marchMorning.second) ∧
        (t < s ↔ marchMorning.second < leapNight.second)) ∧
    (∃ u v d e, Duration.parse "4 weeks" = .ok d ∧ Duration.parse "1 month" = .ok e ∧
      d.seconds ≤ e.seconds ∧ leapNight.earlier? d = some u ∧ leapNight.earlier? e = some v ∧
      ∃ s t second earlier, olderThan .created "4 weeks" leapNight = .ok (.olderThan .created s) ∧
        olderThan .created "1 month" leapNight = .ok (.olderThan .created t) ∧
        Moment.readStamp? s.toList = some second ∧ Moment.readStamp? t.toList = some earlier ∧
        earlier ≤ second ∧ (1000 ≤ v.date.year → t ≤ s)) ∧
    (∃ u v d, Duration.parse "1 day" = .ok d ∧ marchMorning.instant = marchMidnight.instant ∧
      marchMorning.earlier? d = some u ∧ marchMidnight.earlier? d = some v ∧
      ∃ clause, olderThan .updated "1 day" marchMorning = .ok clause ∧
        olderThan .updated "1 day" marchMidnight = .ok clause) := by
  obtain ⟨hordered, hlonger, hclock⟩ := timestamps_in_order
  have hnight : leapNight.toUtc? = some ⟨63844847999500000, some 0, by decide⟩ := rfl
  have hmorning : marchMorning.toUtc? = some marchMidnight := rfl
  have hweeks : Duration.parse "4 weeks" = .ok ⟨2419200, by decide⟩ := by decide +kernel
  have hmonth : Duration.parse "1 month" = .ok ⟨2592000, by decide⟩ := by decide +kernel
  have hday : Duration.parse "1 day" = .ok ⟨86400, by decide⟩ := by decide +kernel
  refine ⟨⟨_, _, hnight, hmorning, by decide +kernel, by decide +kernel, ?_⟩,
    ⟨_, _, _, _, hweeks, hmonth, by decide, rfl, rfl, ?_⟩, ⟨_, _, _, hday, rfl, rfl, rfl, ?_⟩⟩
  · exact hordered _ _ _ _ hnight hmorning (by decide +kernel) (by decide +kernel)
  · exact hlonger _ _ _ _ _ _ _ _ hweeks hmonth (by decide) rfl rfl
  · exact hclock _ _ _ _ _ _ _ hday rfl rfl rfl

end Query

end Triage
