import Mathlib
import Triage.Proofs.TrackerCalls
import Triage.Rule.Effect

/-!
# Operations on one issue

An operation is local to an issue when its outcome and what becomes of the issue depend only on the
issue's record and on the calls that were made for it, and when nothing else is touched. Every request
that changes an issue is local to it, and so is the execution of an action set.
-/

namespace Triage

/-- The calls of a log that are about one issue. -/
def callsOn (n : Int) (log : List Call) : List Call := log.filter (·.issue? = some n)

lemma callsOn_concat {n : Int} {c : Call} (hc : c.issue? = some n) (log : List Call) :
    callsOn n (log ++ [c]) = callsOn n log ++ [c] := by
  simp [callsOn, hc]

lemma callsOn_concat_of_ne {n : Int} {c : Call} (hc : c.issue? ≠ some n) (log : List Call) :
    callsOn n (log ++ [c]) = callsOn n log := by
  simp [callsOn, hc]

/-- Hosts that cannot be told apart by what concerns one issue. -/
structure Host.AgreesOn (n : Int) (h h' : Host) : Prop where
  record : h.record? n = h'.record? n
  calls : callsOn n h.log = callsOn n h'.log

/-- Trackers with the same scope that fail the same calls about one issue, whatever calls about other
issues were made before. -/
structure Tracker.AgreesOn (n : Int) (t t' : Tracker) : Prop where
  scope : t.scope = t'.scope
  home : t.home = t'.home
  fails : ∀ log log' c, Call.issue? c = some n → callsOn n log = callsOn n log' →
    t.fails (log ++ [c]) = t'.fails (log' ++ [c])

lemma Tracker.AgreesOn.symm {n : Int} {t t' : Tracker} (ht : t.AgreesOn n t') : t'.AgreesOn n t :=
  ⟨ht.scope.symm, ht.home.symm, fun log log' c hc hcalls => (ht.fails log' log c hc hcalls.symm).symm⟩

namespace Host

variable {n : Int} {h h' h'' : Host}

lemma AgreesOn.refl (n : Int) (h : Host) : h.AgreesOn n h := ⟨rfl, rfl⟩

lemma AgreesOn.symm (hh : h.AgreesOn n h') : h'.AgreesOn n h := ⟨hh.record.symm, hh.calls.symm⟩

lemma AgreesOn.trans (hh : h.AgreesOn n h') (hh' : h'.AgreesOn n h'') : h.AgreesOn n h'' :=
  ⟨hh.record.trans hh'.record, hh.calls.trans hh'.calls⟩

lemma agreesOn_logged {c : Call} (hc : c.issue? ≠ some n) (h : Host) : h.AgreesOn n (h.logged c) :=
  ⟨rfl, (callsOn_concat_of_ne hc h.log).symm⟩

lemma AgreesOn.logged {c : Call} (hc : c.issue? = some n) (hh : h.AgreesOn n h') :
    (h.logged c).AgreesOn n (h'.logged c) := by
  refine ⟨hh.record, ?_⟩
  have hboth := congrArg (· ++ [c]) hh.calls
  rwa [← callsOn_concat hc, ← callsOn_concat hc] at hboth

lemma find?_putRecord (r : Record) (rs : List Record) (m : Int) :
    (putRecord r rs).find? (·.number = m) =
      if r.number = m then some r else rs.find? (·.number = m) := by
  induction rs with
  | nil => by_cases hm : r.number = m <;> simp [putRecord, hm]
  | cons s rs ih =>
    by_cases hs : s.number = r.number
    · rw [putRecord, if_pos hs, List.find?_cons, List.find?_cons, hs]
      by_cases hm : r.number = m <;> simp [hm]
    · rw [putRecord, if_neg hs, List.find?_cons, ih, List.find?_cons]
      by_cases hm : s.number = m
      · have hne : r.number ≠ m := fun hr => hs (hm.trans hr.symm)
        simp [hm, hne]
      · simp [hm]

lemma record?_put (r : Record) (h : Host) (m : Int) :
    (h.put r).record? m = if r.number = m then some r else h.record? m :=
  find?_putRecord r h.records m

lemma AgreesOn.put {r : Record} (hr : r.number = n) (hh : h.AgreesOn n h') :
    (h.put r).AgreesOn n (h'.put r) := by
  refine ⟨?_, hh.calls⟩
  rw [record?_put, record?_put, if_pos hr, if_pos hr]

lemma agreesOn_put {r : Record} (hr : r.number ≠ n) (h : Host) : h.AgreesOn n (h.put r) := by
  refine ⟨?_, rfl⟩
  rw [record?_put, if_neg hr]

end Host

/-- An operation that depends on one issue only, and changes nothing else. -/
structure Op.IsLocal {ε α : Type} (n : Int) (x : Op ε α) : Prop where
  determined : ∀ {t t' : Tracker} {h h' : Host}, t.AgreesOn n t' → h.AgreesOn n h' →
    (x t h).1 = (x t' h').1 ∧ (x t h).2.AgreesOn n (x t' h').2
  frame : ∀ {m : Int}, m ≠ n → ∀ (t : Tracker) (h : Host), h.AgreesOn m (x t h).2

namespace Op

variable {ε δ α β : Type} {n : Int}

lemma isLocal_pure (n : Int) (a : α) : IsLocal n (pure a : Op ε α) where
  determined _ hh := ⟨rfl, hh⟩
  frame _ _ h := Host.AgreesOn.refl _ h

lemma IsLocal.bind {x : Op ε α} {f : α → Op ε β} (hx : IsLocal n x) (hf : ∀ a, IsLocal n (f a)) :
    IsLocal n (x >>= f) where
  determined {t t' h h'} ht hh := by
    obtain ⟨houtcome, hafter⟩ := hx.determined ht hh
    rw [bind_apply, bind_apply]
    rcases hleft : x t h with ⟨e | a, h₁⟩ <;> rcases hright : x t' h' with ⟨e' | a', h₁'⟩
    all_goals rw [hleft, hright] at houtcome hafter
    · exact ⟨congrArg Except.error (Except.error.inj houtcome), hafter⟩
    · cases houtcome
    · cases houtcome
    · obtain rfl := Except.ok.inj houtcome
      exact (hf a).determined ht hafter
  frame {m} hm t h := by
    have hfirst := hx.frame hm t h
    rw [bind_apply]
    rcases hx' : x t h with ⟨e | a, h₁⟩
    all_goals rw [hx'] at hfirst
    · exact hfirst
    · exact hfirst.trans ((hf a).frame hm t h₁)

lemma IsLocal.mapError {x : Op ε α} (hx : IsLocal n x) (f : ε → δ) : IsLocal n (x.mapError f) where
  determined ht hh := by
    obtain ⟨houtcome, hafter⟩ := hx.determined ht hh
    exact ⟨congrArg (Except.mapError f) houtcome, hafter⟩
  frame hm t h := hx.frame hm t h

end Op

namespace Tracker

variable {n : Int}

lemma isLocal_call {c : Call} (hc : c.issue? = some n) : Op.IsLocal n (call c) where
  determined {t t' h h'} ht hh := by
    refine ⟨?_, hh.logged hc⟩
    simp only [call, ht.fails h.log h'.log c hc hh.calls]
  frame {m} hm t h := by
    refine Host.agreesOn_logged (fun hcm => hm ?_) h
    exact Option.some.inj (hcm.symm.trans hc)

lemma isLocal_fetchRecord (n : Int) : Op.IsLocal n (fetchRecord n) := by
  refine (isLocal_call rfl).bind fun _ => ⟨fun {t t' h h'} ht hh => ⟨?_, hh⟩, fun _ _ h => .refl _ h⟩
  simp only [ht.scope, ht.home, hh.record]

lemma isLocal_change (n : Int) (c : Change) : Op.IsLocal n (change n c) := by
  refine (isLocal_call rfl).bind fun _ => ⟨fun {t t' h h'} _ hh => ?_, fun {m} hm _ h => ?_⟩
  · cases hchanged : (h'.record? n).bind (Record.apply c) with
    | none =>
      rw [hh.record, hchanged]
      exact ⟨rfl, hh⟩
    | some r =>
      obtain ⟨s, hs, hr⟩ := Option.bind_eq_some_iff.mp hchanged
      have hn := (Record.number_of_apply hr).trans (Host.record?_eq_some_iff.mp hs).2
      rw [hh.record, hchanged]
      exact ⟨rfl, hh.put hn⟩
  · cases hchanged : (h.record? n).bind (Record.apply c) with
    | none =>
      exact .refl m h
    | some r =>
      obtain ⟨s, hs, hr⟩ := Option.bind_eq_some_iff.mp hchanged
      have hn := (Record.number_of_apply hr).trans (Host.record?_eq_some_iff.mp hs).2
      exact Host.agreesOn_put (hn ▸ hm.symm) h

lemma isLocal_recordFor (a : Activity) (n : Int) : Op.IsLocal n (recordFor a n) where
  determined {t t' h h'} ht hh := by
    obtain ⟨houtcome, hafter⟩ := (isLocal_fetchRecord n).determined ht hh
    refine ⟨?_, hafter⟩
    simp only [recordFor, houtcome, ht.scope]
  frame hm t h := (isLocal_fetchRecord n).frame hm t h

theorem isLocal_alter (a : Activity) (n : Int) (c : Change) : Op.IsLocal n (alter a n c) :=
  (isLocal_recordFor a n).bind fun _ => (isLocal_change n c).mapError _

end Tracker

theorem Effect.isLocal_perform (n : Int) (e : Effect) : Op.IsLocal n (e.perform n) := by
  cases e <;> exact Tracker.isLocal_alter _ n _

theorem Effect.isLocal_performAll (n : Int) (effects : List Effect) :
    Op.IsLocal n (Effect.performAll n effects) := by
  induction effects with
  | nil => exact Op.isLocal_pure n ()
  | cons e effects ih => exact (isLocal_perform n e).bind fun _ => ih

theorem ActionSet.isLocal_execute (a : ActionSet) (i : Issue) : Op.IsLocal i.number (a.execute i) :=
  (Effect.isLocal_performAll i.number _).bind fun _ => Op.isLocal_pure _ _

end Triage
