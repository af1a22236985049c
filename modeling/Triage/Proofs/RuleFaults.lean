import Mathlib
import Triage.Proofs.BlockForms
import Triage.Proofs.CheckedFaults
import Triage.Query.Clause

/-!
# Tasks that cannot be used

A block that is not a task is a fault of the configuration, unless it names a duration or a number that
is out of all bounds. A task has a query unless a date it asks for lies before the calendar, or its limit
of comments cannot be written.
-/

namespace Triage

namespace Predicates

open Checked Value Value.Mapping

/-- A duration that is written in a value and lies beyond all bounds. -/
def Endless (v : Value) : Prop :=
  ∃ text days, v.asString = .ok text ∧ Duration.parse text = .error (.tooLong days)

lemma exceeds_asDuration (v : Value) : (asDuration v).Exceeds ↔ Endless v := by
  rw [asDuration, exceeds_bind]
  constructor
  · rintro (h | ⟨text, hv, h⟩)
    · exact absurd h (not_exceeds_asString v)
    · cases hd : Duration.parse text with
      | ok d => simp [hd] at h
      | error fault =>
        cases fault with
        | tooLong days => exact ⟨text, days, hv, hd⟩
        | _ => simp [hd, Complaint.excess?] at h
  · rintro ⟨text, days, hv, hd⟩
    exact .inr ⟨text, hv, by simp [hd, Complaint.excess?]⟩

lemma exceeds_optional_asDuration (v : Value) : (optional asDuration v).Exceeds ↔ Endless v := by
  rw [exceeds_optional, exceeds_asDuration]
  constructor
  · exact fun h => h.2
  · intro h
    refine ⟨?_, h⟩
    rintro rfl
    obtain ⟨text, days, hv, -⟩ := h
    cases hv

lemma not_exceeds_orBareNo {α : Type} (no : α) {check : Value → Checked α}
    (h : ∀ v, ¬(check v).Exceeds) (v : Value) : ¬(orBareNo no check v).Exceeds := by
  unfold orBareNo
  split
  · exact exceeds_ok no
  · exact h _

lemma not_exceeds_asCommentLimit (v : Value) : ¬(asCommentLimit v).Exceeds := by
  rw [asCommentLimit, exceeds_bind]
  rintro (h | ⟨n, -, h⟩)
  · exact not_exceeds_asInteger v h
  · by_cases hn : n < 0
    · simp [hn, Complaint.excess?] at h
    · simp [hn] at h

/-- Of all predicates only the two durations can be beyond all bounds. -/
lemma exceeds_check (m : Mapping) :
    (check m).Exceeds ↔ hasBrokenKey m = false ∧
      ∃ key ∈ ["if_created", "if_updated"], ∃ v, entry? key m = some v ∧ Endless v := by
  rw [check, exceeds_closed]
  refine and_congr_right fun _ => ?_
  have hoptions {α : Type} (options : List (String × α)) :=
    not_exceeds_optionalField (not_exceeds_asOneOf options)
  have hstrings := not_exceeds_optionalField (not_exceeds_orBareNo ["no"] not_exceeds_asStrings)
  have hbare := not_exceeds_optionalField (not_exceeds_orBareNo "no" not_exceeds_asString)
  have hstring := not_exceeds_optionalField not_exceeds_asString
  have hlimit := not_exceeds_optionalField not_exceeds_asCommentLimit
  simp only [ofFields, exceeds_seq, exceeds_pure, hoptions, hstrings, hbare, hstring, hlimit, false_or,
    or_false, exceeds_fieldOr, exceeds_optional_asDuration, List.mem_cons, List.not_mem_nil,
    exists_eq_or_imp, exists_eq_left]

lemma parse_of_check {m : Mapping} {p : Predicates} (h : check m = .ok p) {text : String}
    (ht : p.created = some text ∨ p.updated = some text) : ∃ d, Duration.parse text = .ok d := by
  have hread := form.read_get (form.check_eq_ok_iff.mp h).2
  have hduration : ∀ key get, RecordField.duration key get ∈ recordFields → get p = some text →
      ∃ d, Duration.parse text = .ok d := by
    intro key get hmem hget
    obtain ⟨v, hv⟩ := RecordField.check_of_read _ ((hread _ hmem).trans (congrArg Checked.ok hget))
    exact parse_of_asDuration hv
  rcases ht with hcreated | hupdated
  · apply hduration "if_created" created _ hcreated
    exact List.mem_cons_of_mem _ (List.mem_cons_of_mem _ List.mem_cons_self)
  · apply hduration "if_updated" updated _ hupdated
    exact List.mem_cons_of_mem _ (List.mem_cons_of_mem _ (List.mem_cons_of_mem _ List.mem_cons_self))

end Predicates

lemma ActionSet.not_exceeds_asLockChange (v : Value) : ¬(asLockChange v).Exceeds := by
  unfold asLockChange
  split_ifs
  · exact Checked.exceeds_ok _
  · have h := Value.not_exceeds_asOneOf LockReason.options v
    cases hv : v.asOneOf LockReason.options with
    | ok r => exact Checked.exceeds_ok _
    | faulty fs =>
      rw [hv] at h
      rintro ⟨f, hf, he⟩
      rcases List.mem_cons.mp hf with rfl | hf
      · cases he
      · obtain ⟨g, hg, rfl⟩ := List.mem_map.mp hf
        exact h ⟨g, hg, he⟩

open Checked Value Value.Mapping in
lemma ActionSet.not_exceeds_check (m : Mapping) : ¬(ActionSet.check m).Exceeds := by
  rw [ActionSet.check, exceeds_closed]
  have hoptions {α : Type} (options : List (String × α)) :=
    not_exceeds_optionalField (not_exceeds_asOneOf options)
  have hstrings := not_exceeds_optionalField not_exceeds_asStrings
  have hstring := not_exceeds_optionalField not_exceeds_asString
  have hlock := not_exceeds_optionalField not_exceeds_asLockChange
  simp only [ofFields, exceeds_seq, exceeds_pure, hoptions, hstrings, hstring, hlock, or_self, and_false,
    not_false_eq_true]

namespace Rule

open Predicates (Endless)

/-- The fields of a block that are predicates. -/
def conditions (fields : Value.Mapping) : Value.Mapping := fields.filter fun e => isPredicateKey e.1

/-- A block whose keys cannot be written out, or whose durations lie beyond all bounds. -/
inductive Unbounded : Value → Prop where
  | key {fields : Value.Mapping} {entry : Value × Value} {fault : NumeralFault} :
      entry ∈ fields → entry.1.numberFault? .standard = some fault → Unbounded (.map fields)
  | duration {fields : Value.Mapping} {key : String} {v : Value} : writable fields = .ok fields →
      Value.Mapping.hasBrokenKey (conditions fields) = false →
      key ∈ ["if_created", "if_updated"] → Value.entry? key fields = some v → Endless v →
      Unbounded (.map fields)

lemma writable_cases (m : Value.Mapping) :
    (writable m = .ok m ∧ ∀ e ∈ m, e.1.numberFault? .standard = none) ∨
      ∃ e ∈ m, ∃ fault, e.1.numberFault? .standard = some fault ∧
        writable m = .error (.rejected (.badNumeral fault)) := by
  cases hfind : m.findSome? fun e => e.1.numberFault? .standard with
  | none =>
    refine .inl ⟨?_, List.findSome?_eq_none_iff.mp hfind⟩
    simp only [writable, hfind]
  | some fault =>
    obtain ⟨e, he, hf⟩ := List.exists_of_findSome?_eq_some hfind
    refine .inr ⟨e, he, fault, hf, ?_⟩
    simp only [writable, hfind]

/-- The rule that a block's fields describe. -/
def checkFields (name : String) (fields : Value.Mapping) : Checked Rule :=
  (Predicates.check (conditions fields)).bind fun p =>
    (ActionSet.check (fields.filter fun e => !isPredicateKey e.1)).map fun a => Rule.mk name p a

lemma parse_eq {name : String} {raw : Value} {fields : Value.Mapping}
    (hraw : BlockKind.task.fields name raw = .ok fields) (hw : writable fields = .ok fields) :
    parse name raw = (checkFields name fields).forBlock .task name := by
  simp only [parse, hraw, Except.bind, hw]
  rfl

lemma parse_unwritable {name : String} {fields : Value.Mapping} {failure : Failure}
    (hw : writable fields = .error failure) : parse name (.map fields) = .error failure := by
  have hraw : BlockKind.task.fields name (.map fields) = .ok fields := rfl
  simp only [parse, hraw, Except.bind, hw]

lemma exceeds_checkFields (name : String) (fields : Value.Mapping) :
    (checkFields name fields).Exceeds ↔ (Predicates.check (conditions fields)).Exceeds := by
  rw [checkFields, Checked.exceeds_bind]
  refine or_iff_left ?_
  rintro ⟨p, -, h⟩
  rw [Checked.exceeds_map] at h
  exact ActionSet.not_exceeds_check _ h

/-- Only the two durations of a block can be beyond all bounds. -/
lemma exceeds_checkFields_iff (name : String) (fields : Value.Mapping) :
    (checkFields name fields).Exceeds ↔ Value.Mapping.hasBrokenKey (conditions fields) = false ∧
      ∃ key ∈ ["if_created", "if_updated"], ∃ v, Value.entry? key fields = some v ∧ Endless v := by
  rw [exceeds_checkFields, Predicates.exceeds_check]
  refine and_congr_right fun _ => exists_congr fun key => and_congr_right fun hkey => ?_
  have hpre : isPredicateKey (.str (.ofString key)) = true := by
    rcases List.mem_pair.mp hkey with rfl | rfl <;> decide +kernel
  rw [conditions, Value.Mapping.entry?_filter, if_pos hpre]

lemma unbounded_map_iff {fields : Value.Mapping} (hw : writable fields = .ok fields) (name : String) :
    Unbounded (.map fields) ↔ (checkFields name fields).Exceeds := by
  rw [exceeds_checkFields_iff]
  constructor
  · intro h
    cases h with
    | key hmem hfault =>
      -- the keys can all be written out
      rcases writable_cases fields with ⟨-, hnone⟩ | ⟨e, -, fault, -, herror⟩
      · rw [hnone _ hmem] at hfault
        cases hfault
      · rw [hw] at herror
        cases herror
    | duration _ hbroken hkey hv hend => exact ⟨hbroken, _, hkey, _, hv, hend⟩
  · rintro ⟨hbroken, key, hkey, v, hv, hend⟩
    exact .duration hw hbroken hkey hv hend

/-- A rule that was read has durations where it asks for times. -/
def Timely (rule : Rule) : Prop :=
  ∀ text, rule.predicates.created = some text ∨ rule.predicates.updated = some text →
    ∃ d, Duration.parse text = .ok d

lemma timely_of_checkFields {name : String} {fields : Value.Mapping} {rule : Rule}
    (h : checkFields name fields = .ok rule) : Timely rule := by
  rw [checkFields] at h
  cases hp : Predicates.check (conditions fields) with
  | faulty fs =>
    rw [hp] at h
    cases h
  | ok p =>
    rw [hp, Checked.bind] at h
    cases ha : ActionSet.check (fields.filter fun e => !isPredicateKey e.1) with
    | faulty fs =>
      rw [ha] at h
      cases h
    | ok a =>
      rw [ha] at h
      cases h
      exact fun text ht => Predicates.parse_of_check hp ht

/-- What becomes of a block: it is a rule, or a fault of the configuration, or unbounded. -/
inductive Parsed (raw : Value) : Except Failure Rule → Prop where
  | rule {rule : Rule} : ¬Unbounded raw → Timely rule → Parsed raw (.ok rule)
  | fault {fault : ConfigurationFault} : ¬Unbounded raw → Parsed raw (.error (.configuration fault))
  | unbounded {e : Failure} : Unbounded raw → (∀ fault, e ≠ .configuration fault) →
      Parsed raw (.error e)

lemma parsed_of_fields {name : String} {raw : Value} {fields : Value.Mapping}
    (hraw : BlockKind.task.fields name raw = .ok fields) (hw : writable fields = .ok fields)
    (hiff : Unbounded raw ↔ (checkFields name fields).Exceeds) : Parsed raw (parse name raw) := by
  rw [parse_eq hraw hw, Checked.forBlock]
  rcases Checked.orFail_cases (checkFields name fields)
    (fun fs => .configuration (.badBlock .task name fs)) with
    ⟨rule, hok, hrun⟩ | ⟨hexceeds, days, hrun⟩ | ⟨hnot, fs, -, hrun⟩
  · rw [hrun]
    refine .rule ?_ (timely_of_checkFields hok)
    rw [hiff, hok]
    exact Checked.exceeds_ok rule
  · rw [hrun]
    exact .unbounded (hiff.mpr hexceeds) fun fault h => by cases h
  · rw [hrun]
    exact .fault fun h => hnot (hiff.mp h)

theorem parsed_parse (name : String) (raw : Value) : Parsed raw (parse name raw) := by
  cases raw with
  | null =>
    have hraw : BlockKind.task.fields name .null = .ok [] := rfl
    refine parsed_of_fields hraw rfl (iff_of_false (by rintro ⟨⟩) ?_)
    rw [exceeds_checkFields, Predicates.exceeds_check]
    rintro ⟨-, key, -, v, hv, -⟩
    cases hv
  | map fields =>
    rcases writable_cases fields with ⟨hw, -⟩ | ⟨e, he, fault, hfault, herror⟩
    · exact parsed_of_fields rfl hw (unbounded_map_iff hw name)
    · rw [parse_unwritable herror]
      exact .unbounded (.key he hfault) fun _ h => by cases h
  | _ => exact .fault (by rintro ⟨⟩)

end Rule

namespace Moment

/-- On the clock of UTC there is a timestamp for every earlier time that the calendar has. -/
lemma timestamp?_minus? {now : Moment} (hoff : now.offset = some 0) (d : Duration) :
    (∃ s, (now.minus? d).bind timestamp? = some s) ↔ 1000000 * d.seconds ≤ now.ticks := by
  have hlt := now.ticks_lt
  constructor
  · rintro ⟨s, hs⟩
    by_contra hgt
    have hnone : now.minus? d = none := dif_neg fun h => by omega
    rw [hnone] at hs
    cases hs
  · intro hle
    have hticks : (0 : Int) ≤ now.ticks - 1000000 * d.seconds ∧
        ((now.ticks : Int) - 1000000 * d.seconds).toNat < maxTicks := by omega
    have hminus : now.minus? d = some ⟨_, now.offset, hticks.2⟩ := dif_pos hticks
    rw [hminus, Option.bind_some, timestamp?, toUtc?, hoff, Option.getD_some]
    have hutc : (0 : Int) ≤ (((now.ticks : Int) - 1000000 * d.seconds).toNat : Int) - 0 ∧
        ((((now.ticks : Int) - 1000000 * d.seconds).toNat : Int) - 0).toNat < maxTicks := by
      omega
    exact ⟨_, congrArg (Option.map _) (dif_pos hutc)⟩

end Moment

namespace Query

/-- A duration that reaches back before the calendar. -/
def Precedes (now : Moment) (duration : Option String) : Prop :=
  ∃ text d, duration = some text ∧ Duration.parse text = .ok d ∧ now.ticks < 1000000 * d.seconds

lemma parseWithin_empty (limit : DigitLimit) :
    Duration.parseWithin limit "" = .error (.malformed "") := by
  have hsplit : Duration.split? "".toList = none := by decide
  rw [Duration.parseWithin, hsplit]

lemma timeClause_cases {now : Moment} (hoff : now.offset = some 0) (field : TimeField)
    {duration : Option String}
    (ht : ∀ text, duration = some text → ∃ d, Duration.parse text = .ok d) :
    (Precedes now duration ∧ timeClause field now duration = .error (.outOfRange .date)) ∨
      (¬Precedes now duration ∧ ∃ cs, timeClause field now duration = .ok cs) := by
  cases duration with
  | none =>
    refine .inr ⟨?_, [], rfl⟩
    rintro ⟨text, d, h, -⟩
    cases h
  | some text =>
    obtain ⟨d, hd⟩ := ht text rfl
    have hne : text ≠ "" := by
      rintro rfl
      rw [Duration.parse, parseWithin_empty] at hd
      cases hd
    have hiff : Precedes now (some text) ↔ now.ticks < 1000000 * d.seconds := by
      constructor
      · rintro ⟨text', d', h, hd', hlt⟩
        cases h
        rw [hd] at hd'
        cases hd'
        exact hlt
      · exact fun hlt => ⟨text, d, rfl, hd, hlt⟩
    simp only [timeClause, hne, if_false, olderThan, hd, hiff]
    by_cases hlt : now.ticks < 1000000 * d.seconds
    · left
      have hnone : (now.minus? d).bind Moment.timestamp? = none := by
        rw [Option.eq_none_iff_forall_not_mem]
        intro s hs
        have hle := (Moment.timestamp?_minus? hoff d).mp ⟨s, hs⟩
        omega
      rw [hnone]
      exact ⟨hlt, rfl⟩
    · right
      obtain ⟨s, hs⟩ := (Moment.timestamp?_minus? hoff d).mpr (by omega)
      rw [hs]
      exact ⟨hlt, _, rfl⟩

/-- A limit of comments that has too many digits. -/
def TooManyDigits (limit : Option Int) : Prop :=
  (limit.bind DigitLimit.standard.numberFault?).isSome = true

lemma commentsClause_cases (limit : Option Int) :
    (TooManyDigits limit ∧ ∃ fault, commentsClause limit = .error (.rejected (.badNumeral fault))) ∨
      (¬TooManyDigits limit ∧ ∃ cs, commentsClause limit = .ok cs) := by
  cases limit with
  | none => exact .inr ⟨Bool.false_ne_true, [], rfl⟩
  | some n =>
    rw [TooManyDigits, Option.bind_some]
    unfold commentsClause
    dsimp only
    generalize DigitLimit.standard.numberFault? n = found
    cases found with
    | none => exact .inr ⟨Bool.false_ne_true, _, rfl⟩
    | some fault => exact .inl ⟨rfl, fault, rfl⟩

/-- Predicates whose query cannot be written: a date lies before the calendar, or a number has too many
digits. -/
def Unwritable (now : Moment) (p : Predicates) : Prop :=
  Precedes now p.created ∨ Precedes now p.updated ∨ TooManyDigits p.comments

/-- The query of a rule is written, or a date is out of range, or the limit of comments has too many
digits. Dates are looked at first. -/
lemma compile_outcomes {now : Moment} (hoff : now.offset = some 0) {rule : Rule} (ht : rule.Timely)
    (repository : Repository) :
    ((Precedes now rule.predicates.created ∨ Precedes now rule.predicates.updated) ∧
        compile rule.predicates repository now = .error (.outOfRange .date)) ∨
      (¬(Precedes now rule.predicates.created ∨ Precedes now rule.predicates.updated) ∧
        TooManyDigits rule.predicates.comments ∧
        ∃ fault, compile rule.predicates repository now = .error (.rejected (.badNumeral fault))) ∨
      (¬(Precedes now rule.predicates.created ∨ Precedes now rule.predicates.updated) ∧
        ¬TooManyDigits rule.predicates.comments ∧
        ∃ query, compile rule.predicates repository now = .ok query) := by
  rcases timeClause_cases hoff .created fun text h => ht text (.inl h) with
    ⟨hc, hcreated⟩ | ⟨hc, created, hcreated⟩
  · refine .inl ⟨.inl hc, ?_⟩
    rw [compile, clauses, hcreated]
    rfl
  rcases timeClause_cases hoff .updated fun text h => ht text (.inr h) with
    ⟨hu, hupdated⟩ | ⟨hu, updated, hupdated⟩
  · refine .inl ⟨.inr hu, ?_⟩
    rw [compile, clauses, hcreated, hupdated]
    rfl
  have hnot := not_or_intro hc hu
  rcases commentsClause_cases rule.predicates.comments with
    ⟨hn, fault, hcomments⟩ | ⟨hn, comments, hcomments⟩
  · refine .inr (.inl ⟨hnot, hn, fault, ?_⟩)
    rw [compile, clauses, hcreated, hupdated, hcomments]
    rfl
  · refine .inr (.inr ⟨hnot, hn, ?_⟩)
    rw [compile, clauses, hcreated, hupdated, hcomments]
    exact ⟨_, rfl⟩

theorem compile_cases {now : Moment} (hoff : now.offset = some 0) {rule : Rule} (ht : rule.Timely)
    (repository : Repository) :
    (Unwritable now rule.predicates ∧ ∃ e, compile rule.predicates repository now = .error e ∧
        ∀ fault, e ≠ .configuration fault) ∨
      (¬Unwritable now rule.predicates ∧
        ∃ query, compile rule.predicates repository now = .ok query) := by
  rw [Unwritable, ← or_assoc]
  rcases compile_outcomes hoff ht repository with ⟨hdate, he⟩ | ⟨-, hn, fault, he⟩ | ⟨hdate, hn, hok⟩
  · exact .inl ⟨.inl hdate, _, he, fun _ h => by cases h⟩
  · exact .inl ⟨.inr hn, _, he, fun _ h => by cases h⟩
  · exact .inr ⟨not_or_intro hdate hn, hok⟩

end Query

end Triage
