import Mathlib
import Triage.Proofs.RuleFaults

/-!
# The limits of accepted tasks

A task that is accepted has a query unless a date that it asks for lies before the calendar or its limit
of comments has too many digits. When a block is read, only a duration that is well-formed and longer than
every span of time goes beyond the bounds.
-/

namespace Triage

namespace Duration

/-- The microseconds of the longest span: so many days and all of the next one but its last microsecond. -/
def longest : Nat := (mostDays + 1) * 86400000000 - 1

/-- An amount of a unit that makes more than the longest span. -/
def IsTooLong (text : String) : Prop :=
  ∃ amount unit n length, split? text.toList = some (amount, unit) ∧
    Text.readNumeral .standard amount = .ok n ∧ unitSeconds? unit = some length ∧
    longest < 1000000 * (n * length)

lemma parse_eq_tooLong_iff (text : String) :
    (∃ days, parse text = .error (.tooLong days)) ↔ IsTooLong text := by
  have hlongest : ∀ seconds, longest < 1000000 * seconds ↔ ¬seconds < 86400000000000 := by
    intro seconds
    unfold longest mostDays
    omega
  unfold IsTooLong parse parseWithin
  cases hsplit : split? text.toList with
  | none => simp
  | some parts =>
    obtain ⟨amount, unit⟩ := parts
    simp only [Option.some.injEq, Prod.mk.injEq, hlongest]
    cases hread : Text.readNumeral .standard amount with
    | error fault =>
      constructor
      · rintro ⟨days, ⟨⟩⟩
      · rintro ⟨_, _, n, length, ⟨rfl, rfl⟩, hn, -⟩
        rw [hread] at hn
        cases hn
    | ok n =>
      cases hunit : unitSeconds? unit with
      | none =>
        constructor
        · rintro ⟨days, ⟨⟩⟩
        · rintro ⟨_, _, n, length, ⟨rfl, rfl⟩, -, hlength, -⟩
          rw [hunit] at hlength
          cases hlength
      | some length =>
        by_cases hlt : n * length < 86400000000000
        · constructor
          · rintro ⟨days, hdays⟩
            simp only [hlt, dite_true] at hdays
            cases hdays
          · rintro ⟨_, _, n', length', ⟨rfl, rfl⟩, hn, hlength, hlong⟩
            rw [hread] at hn
            rw [hunit] at hlength
            cases hn
            cases hlength
            exact absurd hlt hlong
        · refine iff_of_true ⟨n * length / 86400, ?_⟩ ⟨amount, unit, n, length, ⟨rfl, rfl⟩, hread, hunit, hlt⟩
          simp only [hlt, dite_false]

end Duration

namespace Predicates

lemma endless_iff (v : Value) : Endless v ↔ ∃ text, v.asString = .ok text ∧ Duration.IsTooLong text := by
  refine exists_congr fun text => ?_
  rw [exists_and_left, Duration.parse_eq_tooLong_iff]

end Predicates

namespace Query

/-- Predicates that ask for a time before the calendar. -/
def ReachesBack (now : Moment) (p : Predicates) : Prop :=
  Precedes now p.created ∨ Precedes now p.updated

end Query

namespace Rule

/-- A block goes beyond the bounds when its keys can be written out and one of its two durations, which
are looked at unless a key of a condition is broken, is too long. -/
lemma parse_outOfRange_iff (name : String) (raw : Value) :
    (∃ cause, parse name raw = .error (.outOfRange cause)) ↔
      ∃ fields, raw = .map fields ∧ writable fields = .ok fields ∧
        Value.Mapping.hasBrokenKey (conditions fields) = false ∧
        ∃ key ∈ ["if_created", "if_updated"], ∃ v text, Value.entry? key fields = some v ∧
          v.asString = .ok text ∧ Duration.IsTooLong text := by
  have hexceeds : ∀ fields, (checkFields name fields).Exceeds ↔
      Value.Mapping.hasBrokenKey (conditions fields) = false ∧
        ∃ key ∈ ["if_created", "if_updated"], ∃ v text, Value.entry? key fields = some v ∧
          v.asString = .ok text ∧ Duration.IsTooLong text := by
    intro fields
    simp only [exceeds_checkFields_iff, Predicates.endless_iff, exists_and_left]
  simp only [← hexceeds]
  constructor
  · rintro ⟨cause, hparse⟩
    have hparsed := parsed_parse name raw
    rw [hparse] at hparsed
    cases hparsed with
    | unbounded hunbounded _ =>
      obtain ⟨fields, rfl⟩ : ∃ fields, raw = .map fields := by cases hunbounded <;> exact ⟨_, rfl⟩
      rcases writable_cases fields with ⟨hw, -⟩ | ⟨_, -, fault, -, herror⟩
      · exact ⟨fields, rfl, hw, (unbounded_map_iff hw name).mp hunbounded⟩
      · rw [parse_unwritable herror] at hparse
        cases hparse
  · rintro ⟨fields, rfl, hw, hfields⟩
    rw [parse_eq rfl hw, Checked.forBlock]
    rcases Checked.orFail_cases (checkFields name fields)
      (fun fs => .configuration (.badBlock .task name fs)) with
      ⟨rule, hok, -⟩ | ⟨-, days, hrun⟩ | ⟨hnot, -, -, -⟩
    · rw [hok] at hfields
      exact absurd hfields (Checked.exceeds_ok rule)
    · exact ⟨_, hrun⟩
    · exact absurd hfields hnot

/-- What an accepted task compiles to in the clock of UTC, and which blocks go beyond the bounds when they
are read. A task's own text is never refused: its query is written unless a time that it asks for lies
before the calendar, or else its limit of comments has too many digits. A block goes beyond the bounds only
through a well-formed duration that is too long. -/
theorem compiles_within_limits (name : String) (raw : Value) (now : Moment) (hoff : now.offset = some 0) :
    (∀ rule, parse name raw = .ok rule → ∀ repository,
      (∀ fault, Query.compile rule.predicates repository now ≠ .error (.configuration fault)) ∧
      ((∃ cause, Query.compile rule.predicates repository now = .error (.outOfRange cause)) ↔
        Query.ReachesBack now rule.predicates) ∧
      ((∃ cause, Query.compile rule.predicates repository now = .error (.rejected cause)) ↔
        ¬Query.ReachesBack now rule.predicates ∧ Query.TooManyDigits rule.predicates.comments) ∧
      ((∃ query, Query.compile rule.predicates repository now = .ok query) ↔
        ¬Query.ReachesBack now rule.predicates ∧ ¬Query.TooManyDigits rule.predicates.comments)) ∧
    ((∃ cause, parse name raw = .error (.outOfRange cause)) ↔
      ∃ fields, raw = .map fields ∧ writable fields = .ok fields ∧
        Value.Mapping.hasBrokenKey (conditions fields) = false ∧
        ∃ key ∈ ["if_created", "if_updated"], ∃ v text, Value.entry? key fields = some v ∧
          v.asString = .ok text ∧ Duration.IsTooLong text) := by
  refine ⟨?_, parse_outOfRange_iff name raw⟩
  intro rule hparse repository
  have htimely : rule.Timely := by
    have hparsed := parsed_parse name raw
    rw [hparse] at hparsed
    cases hparsed with
    | rule _ htimely => exact htimely
  unfold Query.ReachesBack
  rcases Query.compile_outcomes hoff htimely repository with
    ⟨hdate, he⟩ | ⟨hdate, hdigits, fault, he⟩ | ⟨hdate, hdigits, query, he⟩
  · simp [he, hdate]
  · simp [he, hdate, hdigits]
  · simp [he, hdate, hdigits]

/-- The last noon of the year 1999. -/
def lastNoon : Moment := ⟨730118 * Moment.dayTicks + 43200000000, some 0, by decide⟩

/-- A task for issues from before the calendar. -/
def ancientBlock : Value := .map [(.str (.ofString "if_created"), .str (.ofString "3000 years"))]

theorem compiles_within_limits_ancientBlock : lastNoon.offset = some 0 ∧
    ∃ rule, parse "ancient" ancientBlock = .ok rule ∧ ∀ repository,
      ∃ cause, Query.compile rule.predicates repository lastNoon = .error (.outOfRange cause) := by
  have hparse : parse "ancient" ancientBlock = .ok ⟨"ancient", { created := some "3000 years" }, {}⟩ := rfl
  obtain ⟨hcompiles, -⟩ := compiles_within_limits "ancient" ancientBlock lastNoon rfl
  refine ⟨rfl, _, hparse, fun repository => ?_⟩
  obtain ⟨-, hrange, -⟩ := hcompiles _ hparse repository
  refine hrange.mpr (.inl ⟨"3000 years", ⟨94608000000, by decide⟩, rfl, ?_, ?_⟩)
  · decide +kernel
  · decide +kernel

/-- The only condition is a limit of comments with 4301 digits. -/
def endlessBlock : Value := .map [(.str (.ofString "if_comments"), .int (Nat.pow 10 4300 : Nat))]

theorem compile_refuses_endlessBlock : ∃ rule, parse "endless" endlessBlock = .ok rule ∧
    ∃ cause, Query.compile rule.predicates ⟨"octo", "widgets"⟩ lastNoon = .error (.rejected cause) := by
  have hread : (parse "endless" endlessBlock).toOption =
      some ⟨"endless", { comments := some (Nat.pow 10 4300 : Nat) }, {}⟩ := by decide +kernel
  have hdigits : Query.TooManyDigits (some (Nat.pow 10 4300 : Nat)) := by
    unfold Query.TooManyDigits
    decide +kernel
  cases hparse : parse "endless" endlessBlock with
  | error failure =>
    rw [hparse] at hread
    cases hread
  | ok rule =>
    rw [hparse] at hread
    obtain rfl := Option.some.inj hread
    refine ⟨_, rfl, ?_⟩
    rcases Query.commentsClause_cases (some (Nat.pow 10 4300 : Nat)) with
      ⟨-, fault, hcomments⟩ | ⟨hnot, -⟩
    · refine ⟨.badNumeral fault, ?_⟩
      simp only [Query.compile, Query.clauses, hcomments]
      rfl
    · exact absurd hdigits hnot

end Rule

end Triage
