import Mathlib
import Triage.Tracker.Request

/-!
# What calls do to a host

A host whose records change by one function that keeps their numbers, and whose log grows by the calls
that were made, advances. Every operation on one issue advances its host: by its change when none of its
calls fails, and otherwise only in its log.
-/

namespace Triage

namespace Record

/-- A change of the record with one number. -/
def only (n : Int) (f : Record → Record) (r : Record) : Record := if r.number = n then f r else r

/-- The record after a change, or as it was when the change does not apply. -/
def after (c : Change) (r : Record) : Record := (r.apply c).getD r

lemma number_of_apply {c : Change} {r s : Record} (h : r.apply c = some s) : s.number = r.number := by
  cases c with
  | removeLabel name =>
    by_cases hl : name ∈ r.issue.labelNames
    · simp only [apply, hl, if_true, Option.some.injEq] at h
      rw [← h]
      rfl
    · simp [apply, hl] at h
  | _ =>
    obtain rfl := Option.some.inj h
    rfl

lemma number_after (c : Change) (r : Record) : (r.after c).number = r.number := by
  unfold after
  cases h : r.apply c with
  | none => rfl
  | some s => exact number_of_apply h

lemma only_of_eq {n : Int} {f : Record → Record} {r : Record} (h : r.number = n) :
    only n f r = f r := if_pos h

lemma only_of_ne {n : Int} {f : Record → Record} {r : Record} (h : r.number ≠ n) :
    only n f r = r := if_neg h

lemma number_only {f : Record → Record} (hf : ∀ r, (f r).number = r.number) (n : Int) (r : Record) :
    (only n f r).number = r.number := by
  by_cases h : r.number = n
  · rw [only_of_eq h, hf]
  · rw [only_of_ne h]

end Record

namespace Host

lemma record?_eq_some_iff {h : Host} {n : Int} {r : Record} :
    h.record? n = some r ↔ r ∈ h.records ∧ r.number = n := by
  have hgo : ∀ rs : List Record, (rs.map Record.number).Nodup →
      (rs.find? (·.number = n) = some r ↔ r ∈ rs ∧ r.number = n) := by
    intro rs
    induction rs with
    | nil => simp
    | cons s rs ih =>
      intro hd
      rw [List.map_cons, List.nodup_cons] at hd
      by_cases hs : s.number = n
      · rw [List.find?_cons_of_pos (by simpa using hs), Option.some.injEq]
        constructor
        · rintro rfl
          exact ⟨List.mem_cons_self, hs⟩
        · rintro ⟨hm, hr⟩
          rcases List.mem_cons.mp hm with rfl | hm
          · rfl
          · exact absurd (List.mem_map.mpr ⟨r, hm, hr.trans hs.symm⟩) hd.1
      · rw [List.find?_cons_of_neg (by simpa using hs), ih hd.2, List.mem_cons]
        constructor
        · exact fun hr => ⟨.inr hr.1, hr.2⟩
        · rintro ⟨rfl | hm, hr⟩
          · exact absurd hr hs
          · exact ⟨hm, hr⟩
  exact hgo h.records h.distinct

lemma putRecord_eq_map {r s : Record} {rs : List Record} (hd : (rs.map Record.number).Nodup)
    (hs : s ∈ rs) (hn : s.number = r.number) :
    putRecord r rs = rs.map (Record.only r.number fun _ => r) := by
  induction rs with
  | nil => simp at hs
  | cons u rs ih =>
    rw [List.map_cons, List.nodup_cons] at hd
    by_cases hu : u.number = r.number
    · have hrest : rs.map (Record.only r.number fun _ => r) = rs := by
        refine (List.map_congr_left fun v hv => ?_).trans (List.map_id rs)
        refine Record.only_of_ne fun hvr => hd.1 ?_
        exact List.mem_map.mpr ⟨v, hv, hvr.trans hu.symm⟩
      rw [putRecord, if_pos hu, List.map_cons, Record.only_of_eq hu, hrest]
    · have hmem : s ∈ rs := by
        rcases List.mem_cons.mp hs with rfl | hm
        · exact absurd hn hu
        · exact hm
      rw [putRecord, if_neg hu, List.map_cons, Record.only_of_ne hu, ih hd.2 hmem]

def logged (c : Call) (h : Host) : Host := { h with log := h.log ++ [c] }

/-- What calls did to a host: it logged them, and every record was changed by one function. -/
structure Advances (h h' : Host) (calls : List Call) (f : Record → Record) : Prop where
  log : h'.log = h.log ++ calls
  records : h'.records = h.records.map f
  number : ∀ r, (f r).number = r.number

lemma Advances.trans {h h' h'' : Host} {calls more : List Call} {f g : Record → Record}
    (hf : h.Advances h' calls f) (hg : h'.Advances h'' more g) :
    h.Advances h'' (calls ++ more) (g ∘ f) where
  log := by rw [hg.log, hf.log, List.append_assoc]
  records := by rw [hg.records, hf.records, List.map_map]
  number r := (hg.number (f r)).trans (hf.number r)

lemma advances_refl (h : Host) : h.Advances h [] id :=
  ⟨(List.append_nil _).symm, (List.map_id _).symm, fun _ => rfl⟩

lemma advances_logged (h : Host) (c : Call) : h.Advances (h.logged c) [c] id :=
  ⟨rfl, (List.map_id _).symm, fun _ => rfl⟩

lemma Advances.record? {h h' : Host} {calls : List Call} {f : Record → Record}
    (ha : h.Advances h' calls f) {n : Int} {r : Record} (hr : h.record? n = some r) :
    h'.record? n = some (f r) := by
  rw [record?_eq_some_iff] at hr ⊢
  rw [ha.records, ha.number]
  exact ⟨List.mem_map_of_mem hr.1, hr.2⟩

lemma advances_put {h : Host} {n : Int} {r : Record} (hr : h.record? n = some r) (c : Change) :
    h.Advances (h.put (r.after c)) [] (Record.only n (Record.after c)) where
  log := (List.append_nil _).symm
  records := by
    rw [record?_eq_some_iff] at hr
    have hn : (r.after c).number = n := (Record.number_after c r).trans hr.2
    have hput := putRecord_eq_map h.distinct hr.1 (hr.2.trans hn.symm)
    rw [hn] at hput
    refine hput.trans ?_
    refine List.map_congr_left fun s hs => ?_
    by_cases hsn : s.number = n
    · have hsr : s = r := List.inj_on_of_nodup_map h.distinct hs hr.1 (hsn.trans hr.2.symm)
      rw [Record.only_of_eq hsn, Record.only_of_eq hsn, hsr]
    · rw [Record.only_of_ne hsn, Record.only_of_ne hsn]
  number := Record.number_only (Record.number_after c) n

end Host

namespace Op

variable {ε α β : Type} {t : Tracker} {h h' : Host}

lemma eq_ok_of_toOption {x : Except ε α} {a : α} (h : x.toOption = some a) : x = .ok a := by
  cases x with
  | error e => cases h
  | ok b => exact congrArg Except.ok (Option.some.inj h)

lemma bind_ok {x : Op ε α} {a : α} (hx : x t h = (.ok a, h')) (f : α → Op ε β) :
    (x >>= f) t h = f a t h' := by
  rw [bind_apply, hx]

lemma bind_error {x : Op ε α} {e : ε} (hx : x t h = (.error e, h')) (f : α → Op ε β) :
    (x >>= f) t h = (.error e, h') := by
  rw [bind_apply, hx]

/-- What comes to a result came to one in each of its two steps. -/
lemma bind_eq_ok {x : Op ε α} {f : α → Op ε β} {b : β} :
    (x >>= f) t h = (.ok b, h') ↔ ∃ a h₁, x t h = (.ok a, h₁) ∧ f a t h₁ = (.ok b, h') := by
  rcases hx : x t h with ⟨e | a, h₁⟩
  · rw [bind_error hx]
    constructor
    · intro hb
      cases hb
    · rintro ⟨a, h₂, ⟨⟩, -⟩
  · rw [bind_ok hx]
    constructor
    · exact fun hb => ⟨a, h₁, rfl, hb⟩
    · rintro ⟨a', h₂, heq, hb⟩
      cases heq
      exact hb

lemma ofExcept_eq_ok {x : Except ε α} {a : α} :
    ofExcept x t h = (.ok a, h') ↔ x = .ok a ∧ h' = h := by
  rw [ofExcept, Prod.mk.injEq]
  exact and_congr_right fun _ => eq_comm

lemma each_attempt_cons {f : α → Op ε β} {a : α} {as : List α} {outcome : Except ε β}
    {outcomes : List (Except ε β)} {h₁ h₂ : Host} (hfirst : f a t h = (outcome, h₁))
    (hrest : Step.each (fun a => (f a).attempt) as t h₁ = (outcomes, h₂)) :
    Step.each (fun a => (f a).attempt) (a :: as) t h = (outcome :: outcomes, h₂) := by
  have hattempt : (f a).attempt t h = (outcome, h₁) := hfirst
  rw [Step.each, Step.bind_apply, hattempt, Step.bind_apply, hrest]
  rfl

end Op

namespace Tracker

variable {t : Tracker} {h : Host} {n : Int} {r : Record}

/-- Whether none of the calls about one issue fails, when they are made after a log. -/
def spares (t : Tracker) (n : Int) : List Call → List Call → Bool
  | _, [] => true
  | log, c :: cs =>
    (decide (c.issue? ≠ some n) || (t.fails (log ++ [c])).isNone) && spares t n (log ++ [c]) cs

lemma spares_append (log calls more : List Call) :
    t.spares n log (calls ++ more) = (t.spares n log calls && t.spares n (log ++ calls) more) := by
  induction calls generalizing log with
  | nil => simp [spares]
  | cons c calls ih => simp [spares, ih, Bool.and_assoc]

lemma spares_of_ne {calls : List Call} (log : List Call) (hc : ∀ c ∈ calls, c.issue? ≠ some n) :
    t.spares n log calls = true := by
  induction calls generalizing log with
  | nil => rfl
  | cons c calls ih =>
    have hrest := ih (log ++ [c]) fun d hd => hc d (List.mem_cons_of_mem c hd)
    simp [spares, hc c List.mem_cons_self, hrest]

lemma spares_cons {c : Call} (hc : c.issue? = some n) (log calls : List Call) :
    t.spares n log (c :: calls) = true ↔
      t.fails (log ++ [c]) = none ∧ t.spares n (log ++ [c]) calls = true := by
  simp [spares, hc]

lemma spares_of_fails {log : List Call} (ht : ∀ log, t.fails log = none) (calls : List Call) :
    t.spares n log calls = true := by
  induction calls generalizing log with
  | nil => rfl
  | cons c calls ih => simp [spares, ht, ih]

lemma call_ok {c : Call} (hf : t.fails (h.log ++ [c]) = none) :
    call c t h = (.ok (), h.logged c) := by
  rw [call, hf]
  rfl

lemma call_error {fault : HostFault} {c : Call} (hf : t.fails (h.log ++ [c]) = some fault) :
    call c t h = (.error fault, h.logged c) := by
  rw [call, hf]
  rfl

lemma recordFor_ok (hs : t.scope.fullName = t.home) (hr : h.record? n = some r)
    (hf : t.fails (h.log ++ [.fetch n]) = none) (a : Activity) :
    recordFor a n t h = (.ok r, h.logged (.fetch n)) := by
  have hfound : (h.logged (.fetch n)).record? n = some r := hr
  have hfetch : fetchRecord n t h = (.ok r, h.logged (.fetch n)) := by
    refine (Op.bind_ok (call_ok hf) _).trans ?_
    simp only [hs, if_true, hfound, Option.elim_some]
  rw [recordFor, hfetch]
  rfl

lemma recordFor_error {fault : HostFault} (hf : t.fails (h.log ++ [.fetch n]) = some fault)
    (a : Activity) : ∃ e, recordFor a n t h = (.error e, h.logged (.fetch n)) := by
  have hfetch : fetchRecord n t h = (.error fault, h.logged (.fetch n)) :=
    Op.bind_error (call_error hf) _
  rw [recordFor, hfetch]
  exact ⟨_, rfl⟩

/-- Whether the calls about an issue find it. -/
def Knows (t : Tracker) (h : Host) (n : Int) : Prop :=
  t.scope.fullName = t.home ∧ ∃ r, h.record? n = some r

lemma recordFor_stranger (hn : ¬t.Knows h n) (a : Activity) :
    ∃ e, recordFor a n t h = (.error e, h.logged (.fetch n)) := by
  cases hf : t.fails (h.log ++ [.fetch n]) with
  | some fault => exact recordFor_error hf a
  | none =>
    have hnone : (if t.scope.fullName = t.home then (h.logged (.fetch n)).record? n else none) = none := by
      split_ifs with hs
      · exact Option.eq_none_iff_forall_ne_some.mpr fun r hr => hn ⟨hs, r, hr⟩
      · rfl
    have hfetch : fetchRecord n t h = (.error .notFound, h.logged (.fetch n)) := by
      refine (Op.bind_ok (call_ok hf) _).trans ?_
      simp only [hnone, Option.elim_none]
    rw [recordFor, hfetch]
    exact ⟨_, rfl⟩

lemma change_ok {c : Change} {s : Record} (hr : h.record? n = some r) (hc : r.apply c = some s)
    (hf : t.fails (h.log ++ [.change n c]) = none) :
    change n c t h = (.ok (), (h.logged (.change n c)).put s) := by
  have hfound : (h.logged (.change n c)).record? n = some r := hr
  refine (Op.bind_ok (call_ok hf) _).trans ?_
  simp only [hfound, Option.bind_some, hc]

lemma change_unknown {c : Change} (hr : h.record? n = some r) (hc : r.apply c = none)
    (hf : t.fails (h.log ++ [.change n c]) = none) :
    change n c t h = (.error .notFound, h.logged (.change n c)) := by
  have hfound : (h.logged (.change n c)).record? n = some r := hr
  refine (Op.bind_ok (call_ok hf) _).trans ?_
  simp only [hfound, Option.bind_some, hc]

lemma change_error {fault : HostFault} {c : Change}
    (hf : t.fails (h.log ++ [.change n c]) = some fault) :
    change n c t h = (.error fault, h.logged (.change n c)) :=
  Op.bind_error (call_error hf) _

lemma advances_change {c : Change} (hr : h.record? n = some r) :
    h.Advances (((h.logged (.fetch n)).logged (.change n c)).put (r.after c)) [.fetch n, .change n c]
      (Record.only n (Record.after c)) := by
  have hlogged := (Host.advances_logged h (.fetch n)).trans (Host.advances_logged _ (.change n c))
  exact hlogged.trans (Host.advances_put (hlogged.record? hr) c)

/-- An issue is altered when neither of the two calls fails. -/
theorem alter_ok (hs : t.scope.fullName = t.home) (hr : h.record? n = some r) {c : Change} {s : Record}
    (hc : r.apply c = some s) (hf : t.spares n h.log [.fetch n, .change n c] = true) (a : Activity) :
    ∃ h', alter a n c t h = (.ok (), h') ∧
      h.Advances h' [.fetch n, .change n c] (Record.only n (Record.after c)) := by
  rw [spares_cons rfl, spares_cons rfl] at hf
  have hafter : s = r.after c := by rw [Record.after, hc, Option.getD_some]
  have hchange := change_ok (h := h.logged (.fetch n)) hr hc hf.2.1
  refine ⟨_, ?_, advances_change hr⟩
  refine (Op.bind_ok (recordFor_ok hs hr hf.1 a) _).trans ?_
  rw [Op.mapError, hchange, hafter]
  rfl

/-- When one of the two calls fails, nothing but the log is changed. -/
theorem alter_error (hs : t.scope.fullName = t.home) (hr : h.record? n = some r) {c : Change}
    (hf : t.spares n h.log [.fetch n, .change n c] = false) (a : Activity) :
    ∃ e h' calls, alter a n c t h = (.error e, h') ∧ h.Advances h' calls id ∧
      (∀ d ∈ calls, d.issue? = some n) ∧ t.spares n h.log calls = false := by
  cases hfetch : t.fails (h.log ++ [.fetch n]) with
  | some fault =>
    obtain ⟨e, he⟩ := recordFor_error (h := h) hfetch a
    refine ⟨e, _, _, Op.bind_error he _, Host.advances_logged h _, by simp [Call.issue?], ?_⟩
    simp [spares, Call.issue?, hfetch]
  | none =>
    cases hchange : t.fails (h.log ++ [.fetch n] ++ [.change n c]) with
    | none =>
      have htrue : t.spares n h.log [.fetch n, .change n c] = true :=
        (spares_cons rfl _ _).mpr ⟨hfetch, (spares_cons rfl _ _).mpr ⟨hchange, rfl⟩⟩
      exact absurd (hf.symm.trans htrue) Bool.false_ne_true
    | some fault =>
      have hc := change_error (h := h.logged (.fetch n)) (c := c) hchange
      refine ⟨fault.during a, _, [.fetch n, .change n c], ?_,
        (Host.advances_logged h _).trans (Host.advances_logged _ _), by simp [Call.issue?], hf⟩
      refine (Op.bind_ok (recordFor_ok hs hr hfetch a) _).trans ?_
      rw [Op.mapError, hc]
      rfl

/-- Removing a label that is not attached succeeds as well. -/
theorem removeLabel_ok (hs : t.scope.fullName = t.home) (hr : h.record? n = some r) {label : String}
    (hf : t.spares n h.log [.fetch n, .change n (.removeLabel label)] = true) :
    ∃ h', removeLabel n label t h = (.ok (), h') ∧
      h.Advances h' [.fetch n, .change n (.removeLabel label)]
        (Record.only n (Record.after (.removeLabel label))) := by
  rw [spares_cons rfl, spares_cons rfl] at hf
  have hfetched := Op.bind_ok (recordFor_ok hs hr hf.1 (.removeLabel n)) (β := Unit)
  cases hc : r.apply (.removeLabel label) with
  | some s =>
    have hafter : s = r.after (.removeLabel label) := by rw [Record.after, hc, Option.getD_some]
    have hchange := change_ok (h := h.logged (.fetch n)) hr hc hf.2.1
    refine ⟨_, ?_, advances_change hr⟩
    refine (hfetched _).trans ?_
    simp only [hchange, hafter]
  | none =>
    have hchange := change_unknown (h := h.logged (.fetch n)) hr hc hf.2.1
    have hafter : r.after (.removeLabel label) = r := by rw [Record.after, hc, Option.getD_none]
    refine ⟨(h.logged (.fetch n)).logged (.change n (.removeLabel label)), ?_, ?_⟩
    · refine (hfetched _).trans ?_
      simp only [hchange, HostFault.notFound]
    · have hlogged := (Host.advances_logged h (.fetch n)).trans
        (Host.advances_logged _ (.change n (.removeLabel label)))
      refine ⟨hlogged.log, ?_, Record.number_only (Record.number_after _) n⟩
      rw [hlogged.records]
      refine List.map_congr_left fun u hu => ?_
      by_cases hun : u.number = n
      · have hur := Host.record?_eq_some_iff.mpr ⟨hu, hun⟩
        obtain rfl : u = r := Option.some.inj (hur.symm.trans hr)
        rw [Record.only_of_eq hun, hafter]
        rfl
      · rw [Record.only_of_ne hun]
        rfl

theorem getMetadata_eq (hs : t.scope.fullName = t.home) (hr : h.record? n = some r)
    (hf : t.fails (h.log ++ [.fetch n]) = none) (key : String) :
    getMetadata n key t h =
      ((Metadata.get t.digits r.issue.body key).mapError fun fault => .rejected (.badNumeral fault),
        h.logged (.fetch n)) :=
  (Op.bind_ok (recordFor_ok hs hr hf _) _).trans rfl

/-- Metadata that was read is that of the issue's record, and the read changes no record. -/
lemma getMetadata_read {h' : Host} {key : String} {stored : Option Json}
    (hread : getMetadata n key t h = (.ok stored, h')) :
    h'.records = h.records ∧
      ∃ r, h.record? n = some r ∧ Metadata.get t.digits r.issue.body key = .ok stored := by
  obtain ⟨r, h₁, hfetch, hget⟩ := Op.bind_eq_ok.mp hread
  by_cases hknows : t.Knows h n
  · obtain ⟨hs, r, hr⟩ := hknows
    cases hf : t.fails (h.log ++ [.fetch n]) with
    | some fault =>
      obtain ⟨e, he⟩ := recordFor_error hf (.readMetadata n)
      rw [he] at hfetch
      cases hfetch
    | none =>
      rw [getMetadata_eq hs hr hf, Prod.mk.injEq] at hread
      refine ⟨by rw [← hread.2]; rfl, r, hr, ?_⟩
      cases hstored : Metadata.get t.digits r.issue.body key with
      | error fault =>
        rw [hstored] at hread
        cases hread.1
      | ok stored =>
        rw [hstored] at hread
        cases hread.1
        rfl
  · obtain ⟨e, he⟩ := recordFor_stranger hknows (.readMetadata n)
    rw [he] at hfetch
    cases hfetch

theorem setMetadata_ok (hs : t.scope.fullName = t.home) (hr : h.record? n = some r) {key : String}
    {value : Json} {body : String} (hset : Metadata.set t.digits r.issue.body key value = .ok body)
    (hf : t.spares n h.log [.fetch n, .change n (.setBody body)] = true) :
    ∃ h', setMetadata n key value t h = (.ok (), h') ∧
      h.Advances h' [.fetch n, .change n (.setBody body)]
        (Record.only n (Record.after (.setBody body))) := by
  rw [spares_cons rfl, spares_cons rfl] at hf
  have hchange := change_ok (h := h.logged (.fetch n)) (c := .setBody body) hr rfl hf.2.1
  refine ⟨_, ?_, advances_change hr⟩
  refine (Op.bind_ok (recordFor_ok hs hr hf.1 _) _).trans ?_
  have hbody : ofNumerals (Metadata.set t.digits r.issue.body key value) t (h.logged (.fetch n)) =
      (.ok body, h.logged (.fetch n)) := by rw [hset]; rfl
  refine (Op.bind_ok (x := Op.digitLimit) rfl _).trans ((Op.bind_ok hbody _).trans ?_)
  rw [Op.mapError, hchange]
  rfl

theorem searchIssues_ok {query : String} (hf : t.fails (h.log ++ [.search query]) = none) :
    searchIssues query t h = (.ok (t.find query h.issues), h.logged (.search query)) := by
  have hcall : ((call (.search query)).mapError (·.during (.search query)) : Op Failure Unit) t h =
      (.ok (), h.logged (.search query)) := by
    rw [Op.mapError, call_ok hf]
    rfl
  exact (Op.bind_ok hcall _).trans rfl

theorem searchIssues_error {query : String} {fault : HostFault}
    (hf : t.fails (h.log ++ [.search query]) = some fault) :
    searchIssues query t h = (.error (fault.during (.search query)), h.logged (.search query)) := by
  have hcall : ((call (.search query)).mapError (·.during (.search query)) : Op Failure Unit) t h =
      (.error (fault.during (.search query)), h.logged (.search query)) := by
    rw [Op.mapError, call_error hf]
    rfl
  exact Op.bind_error hcall _

/-- A search changes no record. -/
lemma searchIssues_records {h' : Host} {query : String} {issues : List Issue}
    (hsearch : searchIssues query t h = (.ok issues, h')) : h'.records = h.records := by
  cases hf : t.fails (h.log ++ [.search query]) with
  | some fault =>
    rw [searchIssues_error hf] at hsearch
    cases hsearch
  | none =>
    rw [searchIssues_ok hf] at hsearch
    cases hsearch
    rfl

end Tracker

end Triage
