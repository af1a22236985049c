import Mathlib
import Triage.Proofs.CascadeClosure
import Triage.Proofs.EntryKeys
import Triage.Proofs.GatheredOutcomes

/-!
# What the relation is collected from

The metadata of every found issue is read before any of it is looked at. What is stored there can be
any value: one that stands for an integer gives the issue a target, and one that does not is passed
over. The exception is an infinite number, and a single one leaves the whole relation uncollected.
-/

namespace Triage.Duplicate

variable {t : Tracker} {h : Host} {limit : DigitLimit} {n target : Int} {issues : List Issue}

/-- What the body of an issue stores for the issue it refers to. -/
def Stored (limit : DigitLimit) (h : Host) (n : Int) (stored : Option Json) : Prop :=
  ∃ r, h.record? n = some r ∧ Metadata.get limit r.issue.body metadataKey = .ok stored

/-- Whether an issue stores a value that stands for an integer. -/
def RefersTo (limit : DigitLimit) (h : Host) (n target : Int) : Prop :=
  ∃ value, Stored limit h n (some value) ∧ value.toInteger limit = .integer target

/-- Whether an issue stores an infinite number. -/
def StoresInfinity (limit : DigitLimit) (h : Host) (n : Int) : Prop :=
  ∃ negative, Stored limit h n (some (.float (.infinite negative)))

/-- The relation of the found issues: those that store an integer, each once, with their integers. -/
structure Relates (limit : DigitLimit) (h : Host) (issues : List Issue) (edges : Edges) : Prop where
  nodup : (Entries.keys edges).Nodup
  get?_iff : ∀ n target, Entries.get? n edges = some target ↔
    n ∈ issues.map (·.number) ∧ RefersTo limit h n target

lemma Stored.unique {stored stored' : Option Json} (hs : Stored limit h n stored)
    (hs' : Stored limit h n stored') : stored = stored' := by
  obtain ⟨r, hr, hget⟩ := hs
  obtain ⟨r', hr', hget'⟩ := hs'
  rw [hr, Option.some.injEq] at hr'
  rw [← hr', hget, Except.ok.injEq] at hget'
  exact hget'

lemma RefersTo.unique {m : Int} (hn : RefersTo limit h n target) (hm : RefersTo limit h n m) :
    target = m := by
  obtain ⟨value, hs, hvalue⟩ := hn
  obtain ⟨value', hs', hvalue'⟩ := hm
  rw [Option.some.inj (hs'.unique hs), hvalue, Json.Reading.integer.injEq] at hvalue'
  exact hvalue'

/-- The target that a stored value gives, without the failure of an infinite number. -/
def finiteTarget (limit : DigitLimit) (stored : Option Json) : Option Int :=
  match stored.map (Json.toInteger limit) with
  | some (.integer n) => some n
  | _ => none

lemma finiteTarget_eq_some {stored : Option Json} :
    finiteTarget limit stored = some target ↔
      ∃ value, stored = some value ∧ value.toInteger limit = .integer target := by
  cases stored with
  | none => simp [finiteTarget]
  | some value =>
    simp only [finiteTarget, Option.map_some, Option.some.injEq, exists_eq_left']
    cases value.toInteger limit <;> simp

lemma toInteger_eq_infinite {value : Json} (hvalue : value.toInteger limit = .infinite) :
    ∃ negative, value = .float (.infinite negative) := by
  have hne (read : Option Int) : read.elim Json.Reading.unreadable .integer ≠ .infinite := by
    cases read <;> rintro ⟨⟩
  cases value with
  | float x =>
    cases x with
    | nan => cases hvalue
    | infinite negative => exact ⟨negative, rfl⟩
    | finite negative m e => exact absurd hvalue (hne (Binary64.finite negative m e).truncate?)
  | str s => exact absurd hvalue (hne _)
  | _ => cases hvalue

lemma target?_infinite (negative : Bool) :
    target? limit (some (.float (.infinite negative))) = .error (.outOfRange .infinity) :=
  rfl

lemma target?_finite {stored : Option Json}
    (hstored : ∀ negative, stored ≠ some (.float (.infinite negative))) :
    target? limit stored = .ok (finiteTarget limit stored) := by
  cases stored with
  | none => rfl
  | some value =>
    simp only [target?, finiteTarget, Option.map_some]
    cases hread : value.toInteger limit with
    | integer n => rfl
    | unreadable => rfl
    | infinite =>
      obtain ⟨negative, rfl⟩ := toInteger_eq_infinite hread
      exact absurd rfl (hstored negative)

/-- A value that is no infinite number does not fail, so there is one failure only. -/
lemma target?_eq_error {stored : Option Json} {e : Failure} (he : target? limit stored = .error e) :
    e = .outOfRange .infinity := by
  by_cases hstored : ∀ negative, stored ≠ some (.float (.infinite negative))
  · rw [target?_finite hstored] at he
    cases he
  · push Not at hstored
    obtain ⟨negative, rfl⟩ := hstored
    rw [target?_infinite, Except.error.injEq] at he
    exact he.symm

lemma allOrFirst_target?_infinite {stored : List (Option Json)} {negative : Bool}
    (hmem : some (.float (.infinite negative)) ∈ stored) :
    Op.allOrFirst (stored.map (target? limit)) = .error (.outOfRange .infinity) := by
  have hfails : .error (.outOfRange .infinity) ∈ stored.map (target? limit) :=
    List.mem_map.mpr ⟨_, hmem, target?_infinite negative⟩
  obtain ⟨e, he⟩ := Op.allOrFirst_error hfails
  obtain ⟨s, -, hsame⟩ := List.mem_map.mp (Op.mem_of_allOrFirst_eq_error he)
  rw [he, target?_eq_error hsame]

lemma allOrFirst_target?_finite {stored : List (Option Json)}
    (hfinite : ∀ negative, some (.float (.infinite negative)) ∉ stored) :
    Op.allOrFirst (stored.map (target? limit)) = .ok (stored.map (finiteTarget limit)) := by
  have hall : stored.map (target? limit) = (stored.map (finiteTarget limit)).map .ok := by
    rw [List.map_map]
    apply List.map_congr_left
    intro s hs
    apply target?_finite
    rintro negative rfl
    exact hfinite negative hs
  rw [hall, Op.allOrFirst_map_ok]

section Collected

variable {stored : List (Option Json)}
  (hstored : List.Forall₂ (fun i s => Stored limit h i.number s) issues stored)

include hstored

/-- The values stand in the order of the issues, and each issue has one. -/
lemma mem_zip_stored {i : Issue} {s : Option Json} :
    (i, s) ∈ issues.zip stored ↔ i ∈ issues ∧ Stored limit h i.number s := by
  induction hstored with
  | nil => simp
  | @cons j v issues stored hfirst _ ih =>
    rw [List.zip_cons_cons, List.mem_cons, List.mem_cons, ih, Prod.mk.injEq]
    constructor
    · rintro (⟨rfl, rfl⟩ | ⟨hi, hs⟩)
      · exact ⟨.inl rfl, hfirst⟩
      · exact ⟨.inr hi, hs⟩
    · rintro ⟨rfl | hi, hs⟩
      · exact .inl ⟨rfl, hs.unique hfirst⟩
      · exact .inr ⟨hi, hs⟩

lemma mem_stored {s : Option Json} :
    s ∈ stored ↔ ∃ n ∈ issues.map (·.number), Stored limit h n s := by
  induction hstored with
  | nil => simp
  | @cons j v issues stored hfirst _ ih =>
    rw [List.mem_cons, ih, List.map_cons]
    constructor
    · rintro (rfl | ⟨n, hn, hs⟩)
      · exact ⟨j.number, List.mem_cons_self, hfirst⟩
      · exact ⟨n, List.mem_cons_of_mem _ hn, hs⟩
    · rintro ⟨n, hn, hs⟩
      rcases List.mem_cons.mp hn with rfl | hn
      · exact .inl (hs.unique hfirst)
      · exact .inr ⟨n, hn, hs⟩

/-- The pairs that the relation is put together from. -/
lemma mem_pairs {n target : Int} :
    (n, target) ∈ ((issues.zip (stored.map (finiteTarget limit))).filterMap fun p =>
        p.2.map fun m => (p.1.number, m)) ↔
      n ∈ issues.map (·.number) ∧ RefersTo limit h n target := by
  rw [List.zip_map_right, List.mem_filterMap]
  constructor
  · rintro ⟨p, hp, hpair⟩
    obtain ⟨⟨i, s⟩, hzip, rfl⟩ := List.mem_map.mp hp
    rw [mem_zip_stored hstored] at hzip
    obtain ⟨m, hm, heq⟩ := Option.map_eq_some_iff.mp hpair
    rw [Prod.mk.injEq] at heq
    obtain ⟨value, rfl, hvalue⟩ := finiteTarget_eq_some.mp hm
    rw [← heq.1, ← heq.2]
    exact ⟨List.mem_map_of_mem hzip.1, value, hzip.2, hvalue⟩
  · rintro ⟨hn, value, hs, hvalue⟩
    obtain ⟨i, hi, rfl⟩ := List.mem_map.mp hn
    refine ⟨(i, some target), List.mem_map.mpr ⟨(i, some value), ?_, ?_⟩, rfl⟩
    · exact (mem_zip_stored hstored).mpr ⟨hi, hs⟩
    · exact Prod.ext rfl (finiteTarget_eq_some.mpr ⟨value, rfl, hvalue⟩)

lemma relates_ofPairs :
    Relates limit h issues (Entries.ofPairs
      ((issues.zip (stored.map (finiteTarget limit))).filterMap fun p =>
        p.2.map fun m => (p.1.number, m))) where
  nodup := Entries.nodup_keys_ofPairs _
  get?_iff n target := by
    rw [Entries.get?_ofPairs, mem_pairs hstored]
    intro n target target' hfirst hsecond
    rw [mem_pairs hstored] at hfirst hsecond
    exact hfirst.2.unique hsecond.2

end Collected

/-- The calls that a collection makes: the search, and then a read for each issue that was found. -/
def survey (settings : DuplicateSettings) : Op Failure (List Issue × List (Option Json)) := do
  let repository ← Op.scope
  let issues ← Tracker.searchIssues
    ("is:issue label:\"" ++ settings.label ++ "\" repo:" ++ repository.fullName)
  let stored ← Op.gather (fun i => Tracker.getMetadata i.number metadataKey) issues
  return (issues, stored)

lemma collectEdges_eq (settings : DuplicateSettings) :
    collectEdges settings = do
      let (issues, stored) ← survey settings
      let limit ← Op.digitLimit
      let targets ← Op.ofExcept (Op.allOrFirst (stored.map (target? limit)))
      return Entries.ofPairs
        ((issues.zip targets).filterMap fun p => p.2.map fun n => (p.1.number, n)) := by
  simp only [collectEdges, survey, bind_assoc, pure_bind]

lemma stored_of_survey {settings : DuplicateSettings} {stored : List (Option Json)} {h' : Host}
    (hsurvey : survey settings t h = (.ok (issues, stored), h')) :
    h'.records = h.records ∧
      List.Forall₂ (fun i s => Stored t.digits h i.number s) issues stored := by
  obtain ⟨repository, h₀, hscope, hrest⟩ := Op.bind_eq_ok.mp hsurvey
  cases hscope
  obtain ⟨found, h₁, hsearch, hrest⟩ := Op.bind_eq_ok.mp hrest
  obtain ⟨read, h₂, hreads, hrest⟩ := Op.bind_eq_ok.mp hrest
  cases hrest
  apply Op.gather_forall (I := fun h' => h'.records = h.records) _
    (Tracker.searchIssues_records hsearch) hreads
  intro i s h' h'' hkept hget
  obtain ⟨hsame, r, hr, hs⟩ := Tracker.getMetadata_read hget
  rw [Host.record?, hkept] at hr
  exact ⟨hsame.trans hkept, r, hr, hs⟩

/-- When the search and the reads succeed, the relation of the found issues is collected if none of them
stores an infinite number, and otherwise nothing is. -/
theorem collectEdges_exact (settings : DuplicateSettings) (t : Tracker) (h h' : Host)
    (issues : List Issue) (stored : List (Option Json))
    (hsurvey : survey settings t h = (.ok (issues, stored), h')) :
    h'.records = h.records ∧
    ((∀ i ∈ issues, ¬StoresInfinity t.digits h i.number) →
      ∃ edges, collectEdges settings t h = (.ok edges, h') ∧ Relates t.digits h issues edges) ∧
    ((∃ i ∈ issues, StoresInfinity t.digits h i.number) →
      collectEdges settings t h = (.error (.outOfRange .infinity), h')) := by
  obtain ⟨hrecords, hstored⟩ := stored_of_survey hsurvey
  have hcollect : collectEdges settings t h =
      ((Op.allOrFirst (stored.map (target? t.digits))).map fun targets =>
        Entries.ofPairs ((issues.zip targets).filterMap fun p => p.2.map fun n => (p.1.number, n)),
        h') := by
    rw [collectEdges_eq]
    refine (Op.bind_ok hsurvey _).trans ((Op.bind_ok (x := Op.digitLimit) rfl _).trans ?_)
    rw [Op.bind_apply, Op.ofExcept]
    cases Op.allOrFirst (stored.map (target? t.digits)) <;> rfl
  refine ⟨hrecords, fun hnone => ?_, ?_⟩
  · have hfinite : ∀ negative, some (.float (.infinite negative)) ∉ stored := by
      intro negative hmem
      obtain ⟨n, hn, hs⟩ := (mem_stored hstored).mp hmem
      obtain ⟨i, hi, rfl⟩ := List.mem_map.mp hn
      exact hnone i hi ⟨negative, hs⟩
    rw [hcollect, allOrFirst_target?_finite hfinite]
    exact ⟨_, rfl, relates_ofPairs hstored⟩
  · rintro ⟨i, hi, negative, hs⟩
    have hmem : some (.float (.infinite negative)) ∈ stored :=
      (mem_stored hstored).mpr ⟨_, List.mem_map_of_mem hi, hs⟩
    rw [hcollect, allOrFirst_target?_infinite hmem]
    rfl

lemma survey_of_numbers (settings : DuplicateSettings) (t : Tracker) (h : Host) {numbers : List Int}
    (hfound : (survey settings t h).1.toOption.map (fun p => p.1.map (·.number)) = some numbers) :
    ∃ issues stored h', survey settings t h = (.ok (issues, stored), h') ∧
      issues.map (·.number) = numbers := by
  rcases hsurvey : survey settings t h with ⟨e | ⟨issues, stored⟩, h'⟩
  · rw [hsurvey] at hfound
    cases hfound
  · rw [hsurvey] at hfound
    exact ⟨issues, stored, h', rfl, Option.some.inj hfound⟩

/-- Issues 2 to 4 refer to issue 1 by numbers and a text, and issue 5 stores a list. -/
theorem collectEdges_exact_listedNumber : ∃ issues stored h',
    survey ⟨"duplicate", true, true⟩ Cascade.calmTracker Cascade.shakyHost =
      (.ok (issues, stored), h') ∧
    issues.map (·.number) = [2, 3, 4, 5] ∧
    Relates .standard Cascade.shakyHost issues [(2, 1), (3, 1), (4, 1)] := by
  have hfound : (survey ⟨"duplicate", true, true⟩ Cascade.calmTracker
      Cascade.shakyHost).1.toOption.map (fun p => p.1.map (·.number)) = some [2, 3, 4, 5] := by decide +kernel
  obtain ⟨issues, stored, h', hsurvey, hnumbers⟩ :=
    survey_of_numbers ⟨"duplicate", true, true⟩ Cascade.calmTracker Cascade.shakyHost hfound
  have hedges : (collectEdges ⟨"duplicate", true, true⟩ Cascade.calmTracker
      Cascade.shakyHost).1.toOption = some [(2, 1), (3, 1), (4, 1)] := by decide +kernel
  obtain ⟨-, hcollected, hfailed⟩ := collectEdges_exact _ _ _ _ _ _ hsurvey
  refine ⟨issues, stored, h', hsurvey, hnumbers, ?_⟩
  by_cases hinfinite : ∃ i ∈ issues, StoresInfinity Cascade.calmTracker.digits Cascade.shakyHost i.number
  · rw [hfailed hinfinite] at hedges
    cases hedges
  · push Not at hinfinite
    obtain ⟨edges, hok, hrelates⟩ := hcollected hinfinite
    rw [hok] at hedges
    rw [← Option.some.inj hedges]
    exact hrelates

/-- Issue 3 refers to issue 2, which stores an infinite number. -/
def boundlessHost : Host where
  records := [Cascade.markedIssue 2 "Infinity", Cascade.markedIssue 3 "2"]
  distinct := by decide

theorem collectEdges_boundlessHost : ∃ issues stored h',
    survey ⟨"duplicate", true, true⟩ Cascade.calmTracker boundlessHost = (.ok (issues, stored), h') ∧
    issues.map (·.number) = [2, 3] ∧
    ∃ e, (collectEdges ⟨"duplicate", true, true⟩ Cascade.calmTracker boundlessHost).1 = .error e := by
  have hfound : (survey ⟨"duplicate", true, true⟩ Cascade.calmTracker
      boundlessHost).1.toOption.map (fun p => p.1.map (·.number)) = some [2, 3] := by decide +kernel
  obtain ⟨issues, stored, h', hsurvey, hnumbers⟩ :=
    survey_of_numbers ⟨"duplicate", true, true⟩ Cascade.calmTracker boundlessHost hfound
  refine ⟨issues, stored, h', hsurvey, hnumbers, Op.exists_eq_error ?_⟩
  decide +kernel

end Triage.Duplicate
