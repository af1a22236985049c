import Mathlib
import Triage.Proofs.CascadeClosure

/-!
# What failures leave behind

An operation of several calls may stop after any of them. What it leaves behind is then one of a few
functions of the records: nothing, all that it does where no call fails, or something in between.
-/

namespace Triage

namespace Record

variable {n : Int} {f g : Record → Record}

lemma only_id (n : Int) : only n id = id := by
  funext r
  exact ite_self r

lemma only_comp (hf : ∀ r, (f r).number = r.number) : only n g ∘ only n f = only n (g ∘ f) := by
  funext r
  rw [Function.comp_apply]
  by_cases hr : r.number = n
  · rw [only_of_eq hr, only_of_eq hr, only_of_eq ((hf r).trans hr), Function.comp_apply]
  · rw [only_of_ne hr, only_of_ne hr, only_of_ne hr]

end Record

namespace Host

/-- The records that some calls left were changed by one function. -/
def Leaves (h h' : Host) (f : Record → Record) : Prop := ∃ calls, h.Advances h' calls f

variable {h h' h'' : Host} {n : Int} {f g : Record → Record}

lemma leaves_refl (h : Host) : h.Leaves h id := ⟨_, h.advances_refl⟩

lemma leaves_logged (h : Host) (c : Call) : h.Leaves (h.logged c) id := ⟨_, h.advances_logged c⟩

lemma Leaves.trans (hf : h.Leaves h' f) (hg : h'.Leaves h'' g) : h.Leaves h'' (g ∘ f) := by
  obtain ⟨calls, hf⟩ := hf
  obtain ⟨more, hg⟩ := hg
  exact ⟨_, hf.trans hg⟩

lemma Leaves.records (hf : h.Leaves h' f) : h'.records = h.records.map f := by
  obtain ⟨calls, hf⟩ := hf
  exact hf.records

lemma Leaves.congr (hf : h.Leaves h' f) (hfg : ∀ r ∈ h.records, f r = g r)
    (hg : ∀ r, (g r).number = r.number) : h.Leaves h' g := by
  obtain ⟨calls, hf⟩ := hf
  exact ⟨calls, hf.log, hf.records.trans (List.map_congr_left hfg), hg⟩

/-- What two courses left can be compared record by record. -/
lemma Leaves.forall₂ (hf : h.Leaves h' f) (hg : h.Leaves h'' g) {R : Record → Record → Prop}
    (hR : ∀ r ∈ h.records, R (f r) (g r)) : List.Forall₂ R h'.records h''.records := by
  rw [hf.records, hg.records, List.forall₂_map_left_iff, List.forall₂_map_right_iff, List.forall₂_same]
  exact hR

lemma only_eq_only {r : Record} (hr : h.record? n = some r) (hfg : f r = g r) :
    ∀ u ∈ h.records, Record.only n f u = Record.only n g u := by
  intro u hu
  by_cases hun : u.number = n
  · obtain rfl : u = r := Option.some.inj ((record?_eq_some_iff.mpr ⟨hu, hun⟩).symm.trans hr)
    rw [Record.only_of_eq hun, Record.only_of_eq hun, hfg]
  · rw [Record.only_of_ne hun, Record.only_of_ne hun]

lemma only_eq_self (hr : h.record? n = none) : ∀ u ∈ h.records, u = Record.only n f u := by
  intro u hu
  refine (Record.only_of_ne fun hun => ?_).symm
  rw [record?_eq_some_iff.mpr ⟨hu, hun⟩] at hr
  cases hr

end Host

/-- What follows an operation without a call leaves what the operation left. -/
lemma Op.bind_leaves {ε α β : Type} {x : Op ε α} {f : α → Op ε β} {t : Tracker} {h : Host}
    (hf : ∀ a t h, (f a t h).2 = h) : ((x >>= f) t h).2 = (x t h).2 := by
  rw [Op.bind_apply]
  cases hx : x t h with
  | mk result h' =>
    cases result with
    | ok a => exact hf a t h'
    | error e => rfl

namespace Tracker

variable {t : Tracker} {h : Host} {n : Int}

/-- The call for a change of a record that was fetched: it fails, or the change is made. -/
lemma change_cases {r : Record} (hr : h.record? n = some r) (c : Change) :
    (∃ fault, change n c t (h.logged (.fetch n)) =
        (.error fault, (h.logged (.fetch n)).logged (.change n c))) ∨
      ∃ h', change n c t (h.logged (.fetch n)) = (.ok (), h') ∧
        h.Leaves h' (Record.only n (Record.after c)) := by
  have hr' : (h.logged (.fetch n)).record? n = some r := hr
  cases hfails : t.fails (h.log ++ [.fetch n] ++ [.change n c]) with
  | some fault => exact .inl ⟨fault, change_error (h := h.logged (.fetch n)) hfails⟩
  | none =>
    cases hc : r.apply c with
    | none => exact .inl ⟨_, change_unknown hr' hc hfails⟩
    | some s =>
      have hafter : s = r.after c := by rw [Record.after, hc, Option.getD_some]
      exact .inr ⟨_, change_ok hr' hc hfails, hafter ▸ ⟨_, advances_change hr⟩⟩

/-- Removing a label leaves what the call for it leaves, also when the host does not know the label. -/
lemma removeLabel_fetched {r : Record} {label : String} {result : Except HostFault Unit} {h₁ h₂ : Host}
    (hfetched : recordFor (.removeLabel n) n t h = (.ok r, h₁))
    (hc : change n (.removeLabel label) t h₁ = (result, h₂)) :
    ∃ outcome, removeLabel n label t h = (outcome, h₂) := by
  have hbind := Op.bind_ok hfetched (β := Unit)
  rcases result with (⟨_ | _, refusal⟩ | text) | _
  all_goals exact ⟨_, (hbind _).trans (by simp only [hc]; rfl)⟩

section Failures

variable (hs : t.scope.fullName = t.home)

include hs

/-- A record is fetched, or there is an error; either way only the log grows. -/
lemma recordFor_cases (a : Activity) :
    (∃ e, recordFor a n t h = (.error e, h.logged (.fetch n))) ∨
      ∃ r, h.record? n = some r ∧ recordFor a n t h = (.ok r, h.logged (.fetch n)) := by
  cases hfetch : t.fails (h.log ++ [.fetch n]) with
  | some fault => exact .inl (recordFor_error hfetch a)
  | none =>
    cases hr : h.record? n with
    | none =>
      have hn : ¬t.Knows h n := by
        rintro ⟨-, r, hr'⟩
        rw [hr] at hr'
        cases hr'
      exact .inl (recordFor_stranger hn a)
    | some r => exact .inr ⟨r, rfl, recordFor_ok hs hr hfetch a⟩

lemma alter_leaves (a : Activity) (c : Change) :
    h.Leaves (alter a n c t h).2 id ∨ h.Leaves (alter a n c t h).2 (Record.only n (Record.after c)) := by
  rcases recordFor_cases hs a with ⟨e, he⟩ | ⟨r, hr, hfetched⟩
  · have halter : alter a n c t h = (.error e, h.logged (.fetch n)) := Op.bind_error he _
    rw [halter]
    exact .inl (h.leaves_logged _)
  · have halter : alter a n c t h =
        ((change n c).mapError (·.during a) : Op Failure Unit) t (h.logged (.fetch n)) :=
      Op.bind_ok hfetched _
    rw [halter, Op.mapError]
    rcases change_cases hr c with ⟨fault, hc⟩ | ⟨h', hc, hleaves⟩
    · rw [hc]
      exact .inl ((h.leaves_logged _).trans (Host.leaves_logged _ _))
    · rw [hc]
      exact .inr hleaves

/-- Where no call fails, an issue is altered if it is there. -/
lemma alter_calm (hcalm : ∀ log, t.fails log = none) (a : Activity) {c : Change}
    (hc : ∀ r : Record, ∃ s, r.apply c = some s) :
    h.Leaves (alter a n c t h).2 (Record.only n (Record.after c)) := by
  cases hr : h.record? n with
  | some r =>
    obtain ⟨s, hs'⟩ := hc r
    obtain ⟨h', hok, hadv⟩ := alter_ok hs hr hs' (spares_of_fails hcalm _) a
    rw [hok]
    exact ⟨_, hadv⟩
  | none =>
    rcases alter_leaves hs a c with hleaves | hleaves
    · exact hleaves.congr (Host.only_eq_self hr) (Record.number_only (Record.number_after c) n)
    · exact hleaves

lemma removeLabel_leaves (label : String) :
    h.Leaves (removeLabel n label t h).2 id ∨
      h.Leaves (removeLabel n label t h).2 (Record.only n (Record.after (.removeLabel label))) := by
  rcases recordFor_cases hs (.removeLabel n) with ⟨e, he⟩ | ⟨r, hr, hfetched⟩
  · have hremove : removeLabel n label t h = (.error e, h.logged (.fetch n)) := Op.bind_error he _
    rw [hremove]
    exact .inl (h.leaves_logged _)
  · rcases change_cases hr (.removeLabel label) with ⟨fault, hc⟩ | ⟨h', hc, hleaves⟩
    · obtain ⟨outcome, hremove⟩ := removeLabel_fetched hfetched hc
      rw [hremove]
      exact .inl ((h.leaves_logged _).trans (Host.leaves_logged _ _))
    · obtain ⟨outcome, hremove⟩ := removeLabel_fetched hfetched hc
      rw [hremove]
      exact .inr hleaves

/-- Metadata is stored as a new body, or there is an error and nothing changes. -/
lemma setMetadata_cases (key : String) (value : Json) :
    (∃ e h', setMetadata n key value t h = (.error e, h') ∧ h.Leaves h' id) ∨
      ∃ r body h', h.record? n = some r ∧ Metadata.set t.digits r.issue.body key value = .ok body ∧
        setMetadata n key value t h = (.ok (), h') ∧
        h.Leaves h' (Record.only n (Record.after (.setBody body))) := by
  rcases recordFor_cases hs (.writeMetadata n) with ⟨e, he⟩ | ⟨r, hr, hfetched⟩
  · exact .inl ⟨e, _, Op.bind_error he _, h.leaves_logged _⟩
  · have hstore : setMetadata n key value t h =
        (do
          let body ← ofNumerals (Metadata.set t.digits r.issue.body key value)
          (change n (.setBody body)).mapError (·.during (.writeMetadata n)) : Op Failure Unit) t
          (h.logged (.fetch n)) :=
      (Op.bind_ok hfetched _).trans (Op.bind_ok (x := Op.digitLimit) rfl _)
    rw [hstore]
    cases hset : Metadata.set t.digits r.issue.body key value with
    | error fault => exact .inl ⟨_, _, rfl, h.leaves_logged _⟩
    | ok body =>
      have hchange : (do
          let body ← ofNumerals (.ok body)
          (change n (.setBody body)).mapError (·.during (.writeMetadata n)) : Op Failure Unit) t
          (h.logged (.fetch n)) =
            ((change n (.setBody body)).mapError (·.during (.writeMetadata n)) : Op Failure Unit) t
              (h.logged (.fetch n)) := rfl
      rw [hchange, Op.mapError]
      rcases change_cases hr (.setBody body) with ⟨fault, hc⟩ | ⟨h', hc, hleaves⟩
      · rw [hc]
        exact .inl ⟨_, _, rfl, (h.leaves_logged _).trans (Host.leaves_logged _ _)⟩
      · rw [hc]
        exact .inr ⟨r, body, h', hr, hset, rfl, hleaves⟩

end Failures

end Tracker

namespace Duplicate.Cascade

variable {c : Cascade} {s : DuplicateSettings} {t : Tracker} {h : Host}

lemma moves_settled (c : Cascade) (numbers : List Int) : c.Moves numbers (c.settled numbers) :=
  fun _ => ⟨[], (commented_nil _).symm⟩

lemma moves_nil (c : Cascade) : c.Moves [] id := settled_nil (c := c) ▸ moves_settled c []

lemma moves_reported {numbers : List Int} (n : Int) (text : String) :
    c.Moves numbers (Record.only n (Record.after (.comment text)) ∘ c.settled numbers) := by
  intro r
  rw [Function.comp_apply]
  by_cases hn : (c.settled numbers r).number = n
  · exact ⟨[text], Record.only_of_eq hn⟩
  · exact ⟨[], (Record.only_of_ne hn).trans (commented_nil _).symm⟩

lemma Moves.trans {numbers more : List Int} {f g : Record → Record} (hf : c.Moves numbers f)
    (hg : c.Moves more g) : c.Moves (numbers ++ more) (g ∘ f) := by
  intro r
  obtain ⟨first, hfirst⟩ := hf r
  obtain ⟨later, hlater⟩ := hg (f r)
  refine ⟨first ++ later, ?_⟩
  rw [Function.comp_apply, hlater, hfirst, settled_commented, settled_append, commented_append,
    Function.comp_apply]

/-- Once some issues have moved, the others that would have followed are left to follow. -/
lemma mem_next_left {h' : Host} {numbers : List Int} {f : Record → Record} (hf : c.Moves numbers f)
    (hleaves : h.Leaves h' f)
    (hfind : ∀ h, FindsExactly t h (c.query s.label t.scope) c.source.text s.label) (n k : Int) :
    k ∈ c.next s t h' n ↔ k ∉ numbers ∧ k ∈ c.next s t h n := by
  rw [mem_next hf hleaves.records (hfind h'), mem_next (moves_nil c) h.leaves_refl.records (hfind h)]
  simp

lemma run_disabled (hdisabled : c.isEnabled s = false) (issue : Issue) :
    (c.run (some s) issue t h).2 = h := by
  simp only [run, hdisabled]
  rfl

lemma run_unsearched {fault : HostFault} (issue : Issue) (henabled : c.isEnabled s = true)
    (hsearch : t.fails (h.log ++ [.search (c.query s.label t.scope)]) = some fault) :
    (c.run (some s) issue t h).2 = h.logged (.search (c.query s.label t.scope)) := by
  have hcall : ((Tracker.call (.search (c.query s.label t.scope))).mapError
      (·.during (.search (c.query s.label t.scope))) : Op Failure Unit) t h =
        (.error (fault.during (.search (c.query s.label t.scope))),
          h.logged (.search (c.query s.label t.scope))) := by
    rw [Op.mapError, Tracker.call_error hsearch]
    rfl
  simp only [run, henabled, if_true]
  refine (congrArg Prod.snd (Op.bind_ok (x := Op.scope) rfl _)).trans ?_
  exact congrArg Prod.snd (Op.bind_error (Op.bind_error hcall _) _)

/-- Whatever fails, a cascade moves issues that would follow, and all of them where no call fails. -/
theorem run_leaves (issue : Issue) (hs : t.scope.fullName = t.home) (henabled : c.isEnabled s = true)
    (hfind : FindsExactly t h (c.query s.label t.scope) c.source.text s.label) :
    ∃ numbers f, h.Leaves (c.run (some s) issue t h).2 f ∧ c.Moves numbers f ∧
      (numbers = [] → f = id) ∧ (∀ k ∈ numbers, k ∈ c.next s t h issue.number) ∧
      ((∀ log, t.fails log = none) → numbers = c.next s t h issue.number) := by
  cases hsearch : t.fails (h.log ++ [.search (c.query s.label t.scope)]) with
  | some fault =>
    rw [run_unsearched issue henabled hsearch]
    refine ⟨[], id, h.leaves_logged _, moves_nil c, fun _ => rfl, by simp, fun hcalm => ?_⟩
    cases hsearch.symm.trans (hcalm _)
  | none =>
    have hcandidates : ∀ i ∈ t.find (c.query s.label t.scope) h.issues,
        ∃ r, (h.logged (.search (c.query s.label t.scope))).record? i.number = some r ∧
          r.issue.body = i.body := by
      intro i hi
      obtain ⟨r, hr, rfl⟩ := exists_record_of_mem_issues ((hfind.mem_iff i).mp hi).1
      exact ⟨r, hr, rfl⟩
    obtain ⟨outcomes, h₁, calls, heach, -, hfollowers, hadv⟩ :=
      each_follow (c := c) (n := issue.number) hs hfind.nodup_numbers hcandidates
    have hturns : h.Leaves h₁ (c.settled (followers outcomes)) :=
      (h.leaves_logged (.search (c.query s.label t.scope))).trans ⟨calls, hadv⟩
    have hsub : ∀ k ∈ followers outcomes, k ∈ c.next s t h issue.number := by
      intro k hk
      rw [hfollowers] at hk
      obtain ⟨i, hi, rfl⟩ := List.mem_map.mp hk
      obtain ⟨hfound, hfollows⟩ := List.mem_filter.mp hi
      rw [follows, Bool.and_eq_true] at hfollows
      exact List.mem_map_of_mem (List.mem_filter.mpr ⟨hfound, hfollows.1⟩)
    have hall (hcalm : ∀ log, t.fails log = none) :
        followers outcomes = c.next s t h issue.number := by
      rw [hfollowers, next]
      congr 1
      refine List.filter_congr fun i _ => ?_
      rw [follows, Tracker.spares_of_fails hcalm, Bool.and_true]
    rw [run_eq henabled hsearch heach]
    by_cases hempty : followers outcomes = []
    · rw [if_pos hempty]
      rw [hempty, settled_nil] at hturns
      rw [hempty] at hsub hall
      exact ⟨[], id, hturns, moves_nil c, fun _ => rfl, hsub, hall⟩
    · rw [if_neg hempty, Op.bind_leaves fun _ _ _ => rfl]
      rcases Tracker.alter_leaves hs (.comment issue.number)
        (.comment (c.summary (followers outcomes))) with hposted | hposted
      · exact ⟨_, _, hturns.trans hposted, moves_settled c _, fun hnil => absurd hnil hempty, hsub, hall⟩
      · exact ⟨_, _, hturns.trans hposted, moves_reported _ _, fun hnil => absurd hnil hempty, hsub, hall⟩

end Duplicate.Cascade

end Triage
