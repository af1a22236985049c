import Mathlib
import Triage.Proofs.PredicateFields
import Triage.Proofs.RuleFaults
import Triage.Proofs.TimestampOrder

/-!
# Search dates

A search date is written as `YYYY-MM-DDTHH:MM:SSZ`. The timestamps of queries always denote the second that
they were made for, but their years are not filled with zeros: they are search dates from the year 1000 on
and not before.
-/

namespace Triage

namespace Moment

/-- The form of a search date, with `#` for each digit. -/
def searchForm : List Char := "####-##-##T##:##:##Z".toList

/-- A character that stands at its place in the form. -/
def Fits (place c : Char) : Prop := if place = '#' then c.isDigit = true else c = place

def IsSearchDate (cs : List Char) : Prop := List.Forall₂ Fits searchForm cs

instance (place c : Char) : Decidable (Fits place c) :=
  inferInstanceAs (Decidable (if place = '#' then c.isDigit = true else c = place))

instance (cs : List Char) : Decidable (IsSearchDate cs) :=
  inferInstanceAs (Decidable (List.Forall₂ Fits searchForm cs))

/-- The first second with a year of four digits. -/
def fourDigits : Nat := Date.secondOf ⟨1000, 1, 1⟩ 0

lemma fits_padded {width n : Nat} (hw : 0 < width) (hn : n < 10 ^ width) :
    List.Forall₂ Fits (List.replicate width '#') (Text.padded width n) := by
  rw [List.forall₂_iff_get]
  refine ⟨by rw [List.length_replicate, Text.length_padded hw hn], ?_⟩
  intro i hi hi'
  have hdigit : ((Text.padded width n).get ⟨i, hi'⟩).isDigit = true :=
    Text.isDigit_of_mem_padded (List.get_mem _ _)
  rw [List.get_eq_getElem, List.getElem_replicate]
  exact hdigit

lemma fits_append_mark {places text rest : List Char} {mark : Char} {later : List Char} (hmark : mark ≠ '#')
    (htext : List.Forall₂ Fits places text) (hlater : List.Forall₂ Fits later rest) :
    List.Forall₂ Fits (places ++ mark :: later) (text ++ mark :: rest) := by
  refine List.rel_append htext (.cons ?_ hlater)
  rw [Fits, if_neg hmark]

lemma length_stamp (u : Moment) : u.wallText.length = (Text.padded 1 u.date.year).length + 16 := by
  have hsecond := u.secondOfDay_lt
  have htwo {n : Nat} (hn : n < 10 ^ 2) : (Text.padded 2 n).length = 2 := Text.length_padded (by decide) hn
  rw [wallText_eq]
  simp only [List.length_append, List.length_cons, htwo u.month_lt, htwo u.day_lt,
    htwo (show u.secondOfDay / 3600 < 10 ^ 2 by omega),
    htwo (show u.secondOfDay / 60 % 60 < 10 ^ 2 by omega),
    htwo (show u.secondOfDay % 60 < 10 ^ 2 by omega), List.length_nil]

/-- A timestamp is a search date exactly when its year has four digits. -/
lemma isSearchDate_stamp_iff (u : Moment) : IsSearchDate u.stamp.toList ↔ 1000 ≤ u.date.year := by
  rw [stamp, String.toList_ofList]
  constructor
  · intro hform
    have hlength := hform.length_eq
    have hplaces : searchForm.length = 20 := by decide
    rw [length_stamp, hplaces] at hlength
    by_contra hyear
    have hshort : (Text.ofNat u.date.year).length ≤ 3 :=
      Text.length_ofNat_le (by decide) (by omega)
    rw [Text.padded, List.length_append, List.length_replicate] at hlength
    omega
  · intro hyear
    have hsecond := u.secondOfDay_lt
    have htwo {n : Nat} (hn : n < 10 ^ 2) :
        List.Forall₂ Fits (List.replicate 2 '#') (Text.padded 2 n) := fits_padded (by decide) hn
    have hhour : u.secondOfDay / 3600 < 10 ^ 2 := by omega
    have hminute : u.secondOfDay / 60 % 60 < 10 ^ 2 := by omega
    have hrest : u.secondOfDay % 60 < 10 ^ 2 := by omega
    rw [wallText_eq, padded_year hyear]
    refine fits_append_mark (by decide) (fits_padded (by decide) u.year_lt) ?_
    refine fits_append_mark (by decide) (htwo u.month_lt) ?_
    refine fits_append_mark (by decide) (htwo u.day_lt) ?_
    refine fits_append_mark (by decide) (htwo hhour) ?_
    refine fits_append_mark (by decide) (htwo hminute) ?_
    exact fits_append_mark (by decide) (htwo hrest) .nil

/-- The years with four digits begin at one second. -/
lemma fourDigits_le_iff (u : Moment) : fourDigits ≤ u.ticks / 1000000 ↔ 1000 ≤ u.date.year := by
  have hfirst : Date.ofDayNumber 364877 = ⟨1000, 1, 1⟩ := by decide
  have hbefore := Date.before_ofDayNumber_iff (u.ticks / dayTicks) 364877
  have hseconds : fourDigits = 364877 * 86400 := by decide
  have hdays : u.ticks / dayTicks < 364877 ↔ u.ticks / 1000000 < fourDigits := by
    rw [hseconds, dayTicks]
    omega
  have hearlier : u.date.Before ⟨1000, 1, 1⟩ ↔ u.date.year < 1000 := by
    have hmonth := u.exists_date.month_pos
    have hday := u.exists_date.day_pos
    unfold Date.Before
    dsimp only
    omega
  rw [hfirst] at hbefore
  rw [← not_lt, ← hdays, ← hbefore, ← not_lt]
  exact not_congr hearlier

lemma length_le_utf8Len (cs : List Char) : cs.length ≤ String.utf8Len cs := by
  induction cs with
  | nil => exact Nat.zero_le _
  | cons c cs ih =>
    have hpos := c.utf8Size_pos
    rw [List.length_cons, String.utf8Len_cons]
    omega

/-- The bounds of a date, as a reader checks them. -/
lemma bounds_date (u : Moment) : (u.date.year < 1 || 9999 < u.date.year) = false ∧
    (u.date.month < 1 || 12 < u.date.month) = false ∧
    (u.date.day < 1 || Date.daysInMonth u.date.year u.date.month < u.date.day) = false := by
  have hdate := u.exists_date
  have hfirst := hdate.year_pos
  have hlast := u.year_lt
  have hmonth := hdate.month_pos
  have hmonths := hdate.month_le
  have hday := hdate.day_pos
  have hdays := hdate.day_le
  simp only [Bool.or_eq_false_iff, decide_eq_false_iff_not]
  omega

lemma isValid_date (u : Moment) : u.date.isValid = true := by
  obtain ⟨hyear, hmonth, hday⟩ := u.bounds_date
  rw [Date.isValid, Date.fault?, hyear, hmonth, hday]
  rfl

/-- The date at the front of a search date. -/
lemma readDate_wallText {u : Moment} (hyear : 1000 ≤ u.date.year) :
    readDate u.wallText = .ok (u.date, 'T' :: (u.clockText ++ ['Z'])) := by
  obtain ⟨-, hmonth, hday⟩ := u.bounds_date
  have hlong : ¬(String.ofList u.wallText).utf8ByteSize < 10 := by
    have hbytes := length_le_utf8Len u.wallText
    have hlength := u.length_stamp
    rw [String.utf8ByteSize_ofList]
    omega
  have hparts : u.wallText = Text.padded 4 u.date.year ++ '-' :: (Text.padded 2 u.date.month ++
      '-' :: (Text.padded 2 u.date.day ++ 'T' :: (u.clockText ++ ['Z']))) := by
    simp only [wallText, Date.text, padded_year hyear, List.append_assoc, List.cons_append]
  have hfour (rest : List Char) : digitsAt? 4 (Text.padded 4 u.date.year ++ rest) = some (u.date.year, rest) :=
    digitsAt?_padded (by decide) u.year_lt rest
  have htwo {n : Nat} (hn : n < 10 ^ 2) (rest : List Char) :
      digitsAt? 2 (Text.padded 2 n ++ rest) = some (n, rest) := digitsAt?_padded (by decide) hn rest
  rw [readDate, if_neg hlong, hparts]
  simp only [hfour, htwo u.month_lt, htwo u.day_lt, hmonth, hday, Bool.false_eq_true, if_false]

/-- The time of day at its end. -/
lemma readClock?_clockText (u : Moment) : readClock? (u.clockText ++ ['Z']) =
    some ⟨u.secondOfDay / 3600, u.secondOfDay / 60 % 60, u.secondOfDay % 60, 0, some 0⟩ := by
  have hsecond := u.secondOfDay_lt
  have hhour : u.secondOfDay / 3600 < 24 := by omega
  have hminute : u.secondOfDay / 60 % 60 < 60 := by omega
  have hrest : u.secondOfDay % 60 < 60 := by omega
  have htwo {n : Nat} (hn : n < 60) (rest : List Char) :
      digitsAt? 2 (Text.padded 2 n ++ rest) = some (n, rest) :=
    digitsAt?_padded (by decide) (by omega) rest
  have hparts : u.clockText ++ ['Z'] = Text.padded 2 (u.secondOfDay / 3600) ++
      ':' :: (Text.padded 2 (u.secondOfDay / 60 % 60) ++ ':' ::
        (Text.padded 2 (u.secondOfDay % 60) ++ ['Z'])) := by
    simp only [clockText, List.append_assoc, List.cons_append]
  have hseconds : readSeconds (':' :: (Text.padded 2 (u.secondOfDay % 60) ++ ['Z'])) =
      some ((u.secondOfDay % 60, 0), ['Z']) := by
    simp [readSeconds, htwo hrest]
  have hoffset : readOffset ['Z'] = some (some 0) := rfl
  rw [readClock?, hparts, htwo (by omega)]
  simp [htwo hminute, hseconds, hoffset, hhour, hminute, hrest]

/-- Reading a search date as a moment gives the whole second in UTC that it was made for. -/
lemma readIso_stamp {u : Moment} (hyear : 1000 ≤ u.date.year) : ∃ m, readIso u.stamp = .ok m ∧
    m.ticks = 1000000 * (u.ticks / 1000000) ∧ m.offset = some 0 := by
  have hlt := u.ticks_lt
  have hsecond := u.secondOfDay_lt
  have hdate := u.secondOf_date
  have hclock : (u.date.isValid && u.secondOfDay / 3600 < 24 && u.secondOfDay / 60 % 60 < 60 &&
      u.secondOfDay % 60 < 60 && 0 < 1000000) = true := by
    simp only [isValid_date, Bool.and_eq_true, decide_eq_true_eq, true_and]
    omega
  have hticks : u.date.dayNumber * dayTicks + ((u.secondOfDay / 3600 * 60 + u.secondOfDay / 60 % 60) * 60 +
      u.secondOfDay % 60) * 1000000 + 0 = 1000000 * (u.ticks / 1000000) := by
    rw [← hdate, Date.secondOf, dayTicks]
    omega
  have hinside : (0 : Int) ≤ (1000000 * (u.ticks / 1000000) : Nat) ∧
      ((1000000 * (u.ticks / 1000000) : Nat) : Int).toNat < maxTicks := by omega
  refine ⟨⟨_, some 0, hinside.2⟩, ?_, Int.toNat_natCast _, rfl⟩
  have hmoment : ClockReading.on? ⟨u.secondOfDay / 3600, u.secondOfDay / 60 % 60, u.secondOfDay % 60, 0,
      some 0⟩ u.date = some ⟨_, some 0, hinside.2⟩ := by
    rw [ClockReading.on?, ofParts?, if_pos hclock, hticks]
    exact dif_pos hinside
  rw [readIso, stamp, String.toList_ofList, readDate_wallText hyear]
  simp only [isDateEnd, List.mem_cons, true_or, decide_true, if_true, readClock?_clockText, Option.bind_some,
    hmoment, Option.elim_some]

end Moment

/-- The duration that predicates give for a time of an issue. -/
def Predicates.age (p : Predicates) : TimeField → Option String
  | .created => p.created
  | .updated => p.updated

namespace Query

variable {p : Predicates} {repository : Repository} {now : Moment} {all : List Clause}

/-- The clauses of times are the deadlines of the durations. -/
lemma mem_olderThan_iff (h : clauses p repository now = .ok all) (field : TimeField) (t : String) :
    Clause.olderThan field t ∈ all ↔ deadline? now (p.age field) = some t := by
  have hown {f : PredicateField} (hf : (Clause.olderThan field t).field? = some f)
      (htime : fieldClauses p now f = timeClause field now (p.age field)) :
      Clause.olderThan field t ∈ all ↔ deadline? now (p.age field) = some t := by
    have hclauses := timeClause_ok (htime.symm.trans (fieldClauses_ok h f))
    have hmem : Clause.olderThan field t ∈ all ↔
        Clause.olderThan field t ∈ all.filter fun c => c.field? = some f := by
      rw [List.mem_filter, hf, decide_eq_true rfl]
      exact (and_iff_left rfl).symm
    rw [hmem, hclauses, Option.mem_toList, Option.map_eq_some_iff]
    simp
  cases field with
  | created => exact hown rfl rfl
  | updated => exact hown rfl rfl

lemma deadline?_eq {text : String} {d : Duration} (hd : Duration.parse text = .ok d) :
    deadline? now (some text) = (now.earlier? d).map Moment.stamp := by
  rw [deadline?, Option.bind_some, hd, Moment.earlier?, Option.map_bind]
  rfl

/-- In the clock of UTC a duration whose clause is written leads to a moment of the calendar. -/
lemma exists_earlier? (hoff : now.offset = some 0) {text : String} {d : Duration}
    (hd : Duration.parse text = .ok d) (hwritten : ¬Precedes now (some text)) : ∃ u,
      now.earlier? d = some u ∧ (u.ticks : Int) = now.ticks - 1000000 * d.seconds := by
  have hle : 1000000 * d.seconds ≤ now.ticks := by
    by_contra hlt
    exact hwritten ⟨text, d, rfl, hd, Nat.lt_of_not_le hlt⟩
  obtain ⟨s, hs⟩ := (Moment.timestamp?_minus? hoff d).mpr hle
  have hdeadline : (now.earlier? d).map Moment.stamp = some s := by
    rw [← deadline?_eq hd, deadline?, Option.bind_some, hd]
    exact hs
  obtain ⟨u, hu, -⟩ := Option.map_eq_some_iff.mp hdeadline
  obtain ⟨hticks, -⟩ := Moment.earlier?_eq_some hu
  rw [Moment.instant, hoff, Option.getD_some, Int.sub_zero] at hticks
  exact ⟨u, hu, hticks⟩

lemma not_precedes_of_compile (hoff : now.offset = some 0) {rule : Rule} (ht : rule.Timely) {query : String}
    (hquery : compile rule.predicates repository now = .ok query) (field : TimeField) :
    ¬Precedes now (rule.predicates.age field) := by
  rcases compile_outcomes hoff ht repository with ⟨-, he⟩ | ⟨-, -, fault, he⟩ | ⟨hnot, -⟩
  · rw [he] at hquery
    cases hquery
  · rw [he] at hquery
    cases hquery
  · rw [not_or] at hnot
    cases field with
    | created => exact hnot.1
    | updated => exact hnot.2

end Query

lemma Rule.timely_of_parse {name : String} {raw : Value} {rule : Rule} (hparse : parse name raw = .ok rule) :
    rule.Timely := by
  have hparsed := parsed_parse name raw
  rw [hparse] at hparsed
  cases hparsed with
  | rule _ htimely => exact htimely

namespace Query

/-- The query of an accepted task has one date for each duration of the task. Read back, it denotes the
time that lies so far before the current moment, cut to a whole second. It has the form of a search date
exactly when its year has four digits. -/
theorem emitted_dates {name : String} {raw : Value} {rule : Rule} {now : Moment} {repository : Repository}
    {query : String} (hoff : now.offset = some 0) (hparse : Rule.parse name raw = .ok rule)
    (hquery : compile rule.predicates repository now = .ok query) :
    ∃ all, clauses rule.predicates repository now = .ok all ∧ query = render all ∧
      (∀ field, rule.predicates.age field = none → ∀ t, Clause.olderThan field t ∉ all) ∧
      ∀ field text, rule.predicates.age field = some text → ∃ (d : Duration) (t : String) (second : Nat),
        Duration.parse text = .ok d ∧ (∀ t', Clause.olderThan field t' ∈ all ↔ t' = t) ∧
        (second : Int) = (now.ticks - 1000000 * d.seconds) / 1000000 ∧
        Moment.readStamp? t.toList = some second ∧
        (Moment.IsSearchDate t.toList ↔ Moment.fourDigits ≤ second) ∧
        (Moment.IsSearchDate t.toList → ∃ m, Moment.readIso t = .ok m ∧ m.ticks = 1000000 * second ∧
          m.offset = some 0) := by
  have htimely := Rule.timely_of_parse hparse
  cases hall : clauses rule.predicates repository now with
  | error e =>
    rw [compile, hall] at hquery
    cases hquery
  | ok all =>
    have hrender : query = render all := by
      rw [compile, hall] at hquery
      exact (Except.ok.inj hquery).symm
    refine ⟨all, rfl, hrender, ?_, ?_⟩
    · intro field hnone t ht
      rw [mem_olderThan_iff hall, hnone] at ht
      cases ht
    · intro field text htext
      have hasked : rule.predicates.created = some text ∨ rule.predicates.updated = some text := by
        cases field with
        | created => exact .inl htext
        | updated => exact .inr htext
      obtain ⟨d, hd⟩ := htimely text hasked
      have hwritten := not_precedes_of_compile hoff htimely hquery field
      rw [htext] at hwritten
      obtain ⟨u, hu, hticks⟩ := exists_earlier? hoff hd hwritten
      refine ⟨d, u.stamp, u.ticks / 1000000, hd, ?_, ?_, u.readStamp?_stamp, ?_, ?_⟩
      · intro t'
        rw [mem_olderThan_iff hall, htext, deadline?_eq hd, hu, Option.map_some, Option.some_inj]
        exact eq_comm
      · rw [← hticks]
        rfl
      · rw [Moment.isSearchDate_stamp_iff, Moment.fourDigits_le_iff]
      · intro hform
        exact Moment.readIso_stamp ((Moment.isSearchDate_stamp_iff u).mp hform)

/-- Half a second after noon of the fifteenth of March 2024. -/
def midMarch : Moment := ⟨63846100800500000, some 0, by decide⟩

/-- A task for issues from before the year 1000 that have been left alone for a day and a half. -/
def oldTask : Value :=
  .map [(.str (.ofString "if_created"), .str (.ofString "1100 years")),
    (.str (.ofString "if_updated"), .str (.ofString "36 hours"))]

def oldQuery : String :=
  "repo:octo/widgets created:<924-12-07T12:00:00Z updated:<2024-03-14T00:00:00Z"

lemma parse_oldTask : Rule.parse "old" oldTask =
    .ok ⟨"old", { created := some "1100 years", updated := some "36 hours" }, {}⟩ := rfl

lemma clauses_oldTask : clauses { created := some "1100 years", updated := some "36 hours" }
    ⟨"octo", "widgets"⟩ midMarch = .ok [.repository ⟨"octo", "widgets"⟩,
      .olderThan .created "924-12-07T12:00:00Z", .olderThan .updated "2024-03-14T00:00:00Z"] := by
  rfl

lemma compile_oldTask : compile { created := some "1100 years", updated := some "36 hours" }
    ⟨"octo", "widgets"⟩ midMarch = .ok oldQuery := by
  rw [compile, clauses_oldTask]
  rfl

theorem emitted_dates_oldTask : midMarch.offset = some 0 ∧ ∃ rule, Rule.parse "old" oldTask = .ok rule ∧
    compile rule.predicates ⟨"octo", "widgets"⟩ midMarch = .ok oldQuery ∧
    ∃ all t, clauses rule.predicates ⟨"octo", "widgets"⟩ midMarch = .ok all ∧
      Clause.olderThan .updated t ∈ all ∧ Moment.IsSearchDate t.toList ∧
      ∃ m, Moment.readIso t = .ok m ∧ m.ticks = 63845971200000000 ∧ m.offset = some 0 := by
  obtain ⟨all, hall, -, -, hdates⟩ := emitted_dates rfl parse_oldTask compile_oldTask
  obtain ⟨d, t, second, hd, hmem, hsecond, -, hform, hread⟩ := hdates .updated "36 hours" rfl
  have hlength : d.seconds = 129600 := by
    have hparse : Duration.parse "36 hours" = .ok ⟨129600, by decide⟩ := by decide +kernel
    rw [hparse] at hd
    obtain rfl := Except.ok.inj hd
    rfl
  obtain rfl : second = 63845971200 := by
    have hticks : midMarch.ticks = 63846100800500000 := rfl
    omega
  have hdate := hform.mpr (by decide)
  exact ⟨rfl, _, parse_oldTask, compile_oldTask, all, t, hall, (hmem t).mpr rfl, hdate, hread hdate⟩

/-- The first date of the task has a year of three digits. -/
theorem emitted_date_shortYear : midMarch.offset = some 0 ∧ ∃ rule,
    Rule.parse "old" oldTask = .ok rule ∧
    compile rule.predicates ⟨"octo", "widgets"⟩ midMarch = .ok oldQuery ∧
    ∃ all, clauses rule.predicates ⟨"octo", "widgets"⟩ midMarch = .ok all ∧
      Clause.olderThan .created "924-12-07T12:00:00Z" ∈ all ∧
      ¬Moment.IsSearchDate "924-12-07T12:00:00Z".toList :=
  ⟨rfl, _, parse_oldTask, compile_oldTask, _, clauses_oldTask, by decide, by decide⟩

end Query

end Triage
