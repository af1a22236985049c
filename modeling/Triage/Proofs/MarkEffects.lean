import Mathlib
import Triage.Proofs.DuplicateRefinement
import Triage.Proofs.JsonLegible
import Triage.Proofs.PartialEffects
import Triage.Query.Search

/-!
# Marks that are made again

The consequence of a comment consists of a new target in the metadata and a change of the labels. When
both are made a second time, or the first of them was all that was made, the issue comes to be the same
as after one time, up to line feeds in front of the metadata.
-/

namespace Triage

namespace Metadata

/-- A body without the line feeds in front of its first comment. -/
def joined (body : Option String) : List Char :=
  match find? (body.getD "").toList with
  | none => (body.getD "").toList
  | some place => dropTrailingNewlines place.before ++ opening ++ place.inside ++ closing ++ place.after

variable {limit : DigitLimit} {body body' : Option String} {text : List Char} {fields : Json.Object}

lemma Carries.joined (h : Carries body text fields) (hf : Lodges limit fields) :
    Metadata.joined body = if fields = [] then text else dropTrailingNewlines text ++ comment fields := by
  unfold Metadata.joined
  rw [h.shape]
  by_cases hne : fields = []
  · rw [if_pos hne, withComment, if_pos hne, find?_eq_none h.clean]
  · obtain ⟨inside, hfind, hwrite⟩ := find?_withComment h.clean hne hf.sealed
    have hcomment : comment fields = opening ++ (inside ++ closing) := by
      refine comment_eq_append ?_
      rw [Json.sorted_obj]
      exact hwrite.symm
    rw [if_neg hne, hfind, hcomment]
    simp only [dropTrailingNewlines_append, List.append_assoc, List.append_nil]

/-- Replacing the metadata of a body by the same again only takes line feeds away. -/
lemma Carries.joined_again (h : Carries body text fields) (hf : Lodges limit fields)
    (h' : Carries body' (Metadata.strip (body.getD "").toList) fields) :
    Metadata.joined body' = Metadata.joined body := by
  rw [h.joined hf, h'.joined hf]
  by_cases hne : fields = []
  · rw [if_pos hne, if_pos hne, h.shape, withComment, if_pos hne, strip_of_notInfix h.clean]
  · rw [if_neg hne, if_neg hne, (h.strip hf).2]

end Metadata

namespace Duplicate

open Metadata (Carries Lodges)

/-- The metadata of an issue that refers to a number, or to none. -/
def markOf (target : Option Int) : Json.Object :=
  target.toList.map fun n => (.ofString metadataKey, .int n)

/-- A body that is a text without an opening, perhaps with a comment behind it that holds the number of
the issue it duplicates and nothing else. -/
def IsMarked (limit : DigitLimit) (body : Option String) : Prop :=
  ∃ text target, (∀ n ∈ target, limit.admits n = true) ∧ Carries body text (markOf target)

variable {limit : DigitLimit}

lemma lodges_markOf {target : Option Int} (h : ∀ n ∈ target, limit.admits n = true) :
    Lodges limit (markOf target) := by
  cases target with
  | none => exact (Metadata.storable_nil limit).lodges
  | some n => exact (storable_target (.inr ⟨n, rfl, h n rfl⟩)).lodges

lemma put_markOf (target : Option Int) (value : Json) :
    Entries.put (.ofString metadataKey) value (Metadata.sortedObject (markOf target)) =
      [(.ofString metadataKey, value)] := by
  cases target with
  | none => simp [markOf, Metadata.sortedObject, Json.sortedFields, Entries.put]
  | some n => simp [markOf, Metadata.sortedObject, Json.sortedFields, Json.sorted, Entries.put]

/-! ## Numbers that comments refer to -/

lemma numeral_lt (cs : List Char) : Text.numeral cs < 10 ^ cs.length := by
  induction cs using List.reverseRecOn with
  | nil => exact Nat.one_pos
  | append_singleton cs c ih =>
    have hdigit : (Text.digit? c).getD 0 < 10 := by
      unfold Text.digit?
      cases hzero : Text.digitZeros.find? fun z => z ≤ c.toNat && c.toNat < z + 10 with
      | none => exact Nat.zero_lt_succ 9
      | some z =>
        have hz := List.find?_some hzero
        simp only [Bool.and_eq_true, decide_eq_true_eq] at hz
        rw [Option.map_some, Option.getD_some]
        omega
    have hconcat : Text.numeral (cs ++ [c]) = 10 * Text.numeral cs + (Text.digit? c).getD 0 :=
      List.foldl_concat ..
    rw [hconcat, List.length_append, List.length_singleton, pow_succ]
    omega

/-- A number that could be read can be written. -/
lemma admits_of_reference {body : Option String} {n : Nat} (h : reference limit body = .ok (some n)) :
    limit.admits n = true := by
  cases body with
  | none => cases h
  | some b =>
    simp only [reference, referenceIn] at h
    cases hrest : Text.dropLiteral? referenceLead b.toList with
    | none =>
      rw [hrest] at h
      cases h
    | some rest =>
      simp only [hrest] at h
      by_cases hds : rest.takeWhile Text.isDigit = []
      · rw [if_pos hds] at h
        cases h
      · rw [if_neg hds, Text.readNumeral] at h
        cases hfault : limit.textFault? (rest.takeWhile Text.isDigit).length with
        | some fault =>
          rw [hfault] at h
          cases h
        | none =>
          rw [hfault] at h
          obtain rfl := Option.some.inj (Except.ok.inj h)
          refine DigitLimit.admits_of_le hfault ?_
          exact (Nat.length_toDigits_le_iff (by decide) (List.length_pos_iff.mpr hds)).mpr (numeral_lt _)

/-- The number that a consequence stores. -/
def Consequence.number? (c : Consequence) : Option Int := c.target?.map Int.ofNat

/-- Whether the number that a consequence stores can be written. -/
def Consequence.IsWritable (limit : DigitLimit) (c : Consequence) : Prop :=
  ∀ n ∈ c.number?, limit.admits n = true

lemma consequence_ok {action : CommentAction} {body previous : Option String} {c : Consequence}
    (h : consequence limit action body previous = .ok (some c)) :
    ∃ present former, reference limit body = .ok present ∧
      consequenceOf action present former = some c := by
  unfold consequence at h
  cases hbody : reference limit body with
  | error fault =>
    rw [hbody] at h
    cases h
  | ok present =>
    rw [hbody] at h
    by_cases hedited : action = .edited
    · cases hprevious : reference limit previous with
      | error fault =>
        simp only [hedited, if_true, hprevious] at h
        cases h
      | ok former =>
        simp only [hedited, if_true, hprevious] at h
        exact ⟨present, former, rfl, hedited ▸ Except.ok.inj h⟩
    · simp only [hedited, if_false] at h
      exact ⟨present, none, rfl, Except.ok.inj h⟩

/-- What comments make a target can be written. -/
lemma isWritable_of_consequence {action : CommentAction} {body previous : Option String}
    {c : Consequence} (h : consequence limit action body previous = .ok (some c)) :
    c.IsWritable limit := by
  obtain ⟨present, former, hpresent, hc⟩ := consequence_ok h
  intro n hn
  obtain ⟨m, hm, rfl⟩ := Option.map_eq_some_iff.mp hn
  have htarget : present = some m := by
    cases action <;> cases present <;> cases former <;> cases hc <;> cases hm <;> rfl
  rw [htarget] at hpresent
  exact admits_of_reference hpresent

/-! ## Consequences of comments -/

/-- Two records that differ at most in their comments and in line feeds in front of their metadata. -/
structure Resembles (limit : DigitLimit) (r s : Record) : Prop where
  target : Metadata.get limit s.issue.body metadataKey = Metadata.get limit r.issue.body metadataKey
  body : Metadata.joined s.issue.body = Metadata.joined r.issue.body
  rest : s = { r with
    issue := { r.issue with body := s.issue.body, comments := s.issue.comments }, posted := s.posted }

/-- Two records that differ at most in line feeds in front of their metadata. -/
structure Alike (limit : DigitLimit) (r s : Record) : Prop extends Resembles limit r s where
  comments : s.issue.comments = r.issue.comments
  posted : s.posted = r.posted

lemma alike_refl (limit : DigitLimit) (r : Record) : Alike limit r r := ⟨⟨rfl, rfl, rfl⟩, rfl, rfl⟩

namespace Consequence

variable {c : Consequence} {label : String} {r : Record}

/-- The record of an issue after the target of a consequence was stored. -/
def noted (limit : DigitLimit) (c : Consequence) (r : Record) : Record :=
  match Metadata.set limit r.issue.body metadataKey c.stored with
  | .ok body => r.after (.setBody body)
  | .error _ => r

/-- The record of an issue after the whole of a consequence; there is none when the target cannot be
stored. -/
def performed (limit : DigitLimit) (label : String) (c : Consequence) (r : Record) : Record :=
  match Metadata.set limit r.issue.body metadataKey c.stored with
  | .ok body => (r.after (.setBody body)).after (c.labelChange label)
  | .error _ => r

/-- The labels of an issue after a consequence. -/
def relabeled (label : String) (c : Consequence) (labels : List Label) : List Label :=
  match c with
  | .mark _ => [.named label]
  | .unmark => labels.filter (·.name ≠ label)

lemma after_labelChange (label : String) (c : Consequence) (r : Record) :
    r.after (c.labelChange label) =
      { r with issue := { r.issue with labels := c.relabeled label r.issue.labels } } := by
  cases c with
  | mark n => rfl
  | unmark => exact after_removeLabel label r

lemma relabeled_relabeled (labels : List Label) :
    c.relabeled label (c.relabeled label labels) = c.relabeled label labels := by
  cases c with
  | mark n => rfl
  | unmark => simp [relabeled]

lemma number_noted (c : Consequence) (r : Record) : (c.noted limit r).number = r.number := by
  unfold noted
  cases Metadata.set limit r.issue.body metadataKey c.stored <;> rfl

lemma number_performed (c : Consequence) (r : Record) : (c.performed limit label r).number = r.number := by
  unfold performed
  cases Metadata.set limit r.issue.body metadataKey c.stored with
  | error fault => rfl
  | ok body => exact Record.number_after _ _

/-- The metadata after a consequence. -/
lemma withoutNulls_stored_markOf (c : Consequence) :
    Metadata.withoutNulls [(.ofString metadataKey, c.stored)] =
      markOf c.number? := by
  cases c <;> rfl

lemma IsWritable.lodges (hc : c.IsWritable limit) :
    Lodges limit (markOf c.number?) := lodges_markOf hc

lemma IsWritable.set (hc : c.IsWritable limit) {body : Option String} (hbody : IsMarked limit body) :
    ∃ body', Metadata.set limit body metadataKey c.stored = .ok body' ∧
      Carries (some body') (Metadata.strip (body.getD "").toList)
        (markOf c.number?) := by
  obtain ⟨text, target, htarget, hcarries⟩ := hbody
  have hnew : Lodges limit [(.ofString metadataKey, c.stored)] := by
    cases c with
    | mark n => exact (storable_target (.inr ⟨n, rfl, hc n rfl⟩)).lodges
    | unmark => exact (storable_target (.inl rfl)).lodges
  rw [← put_markOf target] at hnew
  obtain ⟨body', hset, hbody'⟩ := hcarries.set (lodges_markOf htarget) hnew
  rw [put_markOf, withoutNulls_stored_markOf] at hbody'
  exact ⟨body', hset, hbody'⟩

lemma isMarked_of_carries (hc : c.IsWritable limit) {body : Option String} {text : List Char}
    (h : Carries body text (markOf c.number?)) : IsMarked limit body :=
  ⟨text, _, hc, h⟩

lemma noted_eq {body : String} (hset : Metadata.set limit r.issue.body metadataKey c.stored = .ok body) :
    c.noted limit r = { r with issue := { r.issue with body := some body } } := by
  rw [noted, hset]
  rfl

lemma performed_eq {body : String}
    (hset : Metadata.set limit r.issue.body metadataKey c.stored = .ok body) :
    c.performed limit label r =
      { r with issue :=
        { r.issue with body := some body, labels := c.relabeled label r.issue.labels } } := by
  rw [performed, hset]
  exact after_labelChange label c _

/-- The whole of a consequence comes to the same from the start, after its target was stored and when
nothing of it is missing. -/
lemma performed_again (hc : c.IsWritable limit) (hr : IsMarked limit r.issue.body) {s : Record}
    (hs : s = r ∨ s = c.noted limit r ∨ s = c.performed limit label r) :
    Alike limit (c.performed limit label r) (c.performed limit label s) := by
  obtain ⟨first, hfirst, hcarries⟩ := hc.set hr
  obtain ⟨second, hsecond, hcarries'⟩ := hc.set (isMarked_of_carries hc hcarries)
  rcases hs with rfl | hs
  · exact alike_refl limit _
  · -- the body that was written is written again, and labels are changed at most once
    have hbody : s.issue.body = some first := by
      rcases hs with rfl | rfl
      · rw [noted_eq hfirst]
      · rw [performed_eq hfirst]
    have hnext : c.performed limit label s = { r with issue :=
        { r.issue with body := some second, labels := c.relabeled label r.issue.labels } } := by
      rw [performed_eq (hbody ▸ hsecond)]
      rcases hs with rfl | rfl
      · rw [noted_eq hfirst]
      · rw [performed_eq hfirst]
        simp only [relabeled_relabeled]
    rw [hnext, performed_eq hfirst]
    refine ⟨⟨?_, hcarries.joined_again hc.lodges hcarries', rfl⟩, rfl, rfl⟩
    rw [Metadata.get, Metadata.get, hcarries.read hc.lodges, hcarries'.read hc.lodges]

end Consequence

/-- On one issue, a consequence that was made by half comes to the same as one made at once. -/
lemma performed_only_again {limit : DigitLimit} {label : String} {n : Int} {c : Consequence}
    (hc : c.IsWritable limit) {r : Record} (hr : IsMarked limit r.issue.body) {g : Record → Record}
    (hg : g r = r ∨ g r = c.noted limit r ∨ g r = c.performed limit label r) :
    Alike limit (Record.only n (c.performed limit label) r)
      (Record.only n (c.performed limit label) (Record.only n g r)) := by
  have hnumber : (g r).number = r.number := by
    rcases hg with hg | hg | hg
    · rw [hg]
    · rw [hg, c.number_noted]
    · rw [hg, c.number_performed]
  by_cases hn : r.number = n
  · rw [Record.only_of_eq hn, Record.only_of_eq hn, Record.only_of_eq (hnumber.trans hn)]
    exact Consequence.performed_again hc hr hg
  · rw [Record.only_of_ne hn, Record.only_of_ne hn, Record.only_of_ne hn]
    exact alike_refl limit r

/-- The part of a consequence that changes labels. -/
def relabel (s : DuplicateSettings) (n : Int) : Consequence → Op Failure Unit
  | .mark _ => Tracker.replaceLabels n [s.label]
  | .unmark => Tracker.removeLabel n s.label

section Perform

variable {s : DuplicateSettings} {t : Tracker} {h h' : Host} {n : Int} {c : Consequence}

lemma perform_eq (s : DuplicateSettings) (n : Int) (c : Consequence) :
    perform s n c =
      (do Tracker.setMetadata n metadataKey c.stored; relabel s n c : Op Failure Unit) := by
  cases c <;> rfl

lemma perform_stored (hok : Tracker.setMetadata n metadataKey c.stored t h = (.ok (), h')) :
    (perform s n c t h).2 = (relabel s n c t h').2 := by
  rw [perform_eq]
  exact congrArg Prod.snd (Op.bind_ok hok _)

lemma perform_unstored {e : Failure}
    (herror : Tracker.setMetadata n metadataKey c.stored t h = (.error e, h')) :
    (perform s n c t h).2 = h' := by
  rw [perform_eq]
  exact congrArg Prod.snd (Op.bind_error herror _)

variable {r : Record} {body : String}

/-- Labels that are changed after the target was stored make a consequence whole. -/
lemma leaves_performed (hr : h.record? n = some r)
    (hset : Metadata.set t.digits r.issue.body metadataKey c.stored = .ok body)
    (hstored : h.Leaves h' (Record.only n (Record.after (.setBody body)))) {h'' : Host}
    (hlabels : h'.Leaves h'' (Record.only n (Record.after (c.labelChange s.label)))) :
    h.Leaves h'' (Record.only n (c.performed t.digits s.label)) := by
  have hperformed : c.performed t.digits s.label r =
      (r.after (.setBody body)).after (c.labelChange s.label) := by
    rw [Consequence.performed, hset]
  refine (hstored.trans hlabels).congr ?_ (Record.number_only c.number_performed n)
  rw [Record.only_comp (Record.number_after _)]
  exact Host.only_eq_only hr hperformed.symm

variable (hs : t.scope.fullName = t.home)

include hs

lemma relabel_leaves (c : Consequence) :
    h.Leaves (relabel s n c t h).2 id ∨
      h.Leaves (relabel s n c t h).2 (Record.only n (Record.after (c.labelChange s.label))) := by
  cases c with
  | mark m => exact Tracker.alter_leaves hs (.replaceLabels n) (.setLabels [s.label])
  | unmark => exact Tracker.removeLabel_leaves hs s.label

/-- A consequence is left undone, half done or done. -/
theorem perform_leaves (c : Consequence) :
    h.Leaves (perform s n c t h).2 id ∨
      h.Leaves (perform s n c t h).2 (Record.only n (c.noted t.digits)) ∨
      h.Leaves (perform s n c t h).2 (Record.only n (c.performed t.digits s.label)) := by
  rcases Tracker.setMetadata_cases hs metadataKey c.stored with
    ⟨e, h', herror, hleaves⟩ | ⟨r, body, h', hr, hset, hok, hleaves⟩
  · rw [perform_unstored herror]
    exact .inl hleaves
  · rw [perform_stored hok]
    rcases relabel_leaves hs c with hnone | hall
    · have hnoted : r.after (.setBody body) = c.noted t.digits r := by rw [Consequence.noted, hset]
      refine .inr (.inl ((hleaves.trans hnone).congr ?_ (Record.number_only c.number_noted n)))
      exact Host.only_eq_only hr hnoted
    · exact .inr (.inr (leaves_performed hr hset hleaves hall))

section Calm

variable (hcalm : ∀ log, t.fails log = none)

include hcalm

lemma relabel_calm (hr : h.record? n = some r) (c : Consequence) :
    h.Leaves (relabel s n c t h).2 (Record.only n (Record.after (c.labelChange s.label))) := by
  cases c with
  | mark m =>
    obtain ⟨h', hok, hadv⟩ := Tracker.alter_ok (c := .setLabels [s.label]) hs hr rfl
      (Tracker.spares_of_fails hcalm _) (.replaceLabels n)
    have hrelabel : relabel s n (.mark m) t h = (.ok (), h') := hok
    rw [hrelabel]
    exact ⟨_, hadv⟩
  | unmark =>
    have hspares : t.spares n h.log [.fetch n, .change n (.removeLabel s.label)] = true :=
      Tracker.spares_of_fails hcalm _
    obtain ⟨h', hok, hadv⟩ := Tracker.removeLabel_ok hs hr hspares
    have hrelabel : relabel s n .unmark t h = (.ok (), h') := hok
    rw [hrelabel]
    exact ⟨_, hadv⟩

/-- Where no call fails, a consequence is done if its issue is there. -/
theorem perform_calm (c : Consequence) :
    h.Leaves (perform s n c t h).2 (Record.only n (c.performed t.digits s.label)) := by
  have hnumber : ∀ r, (Record.only n (c.performed t.digits s.label) r).number = r.number :=
    Record.number_only c.number_performed n
  cases hr : h.record? n with
  | none =>
    have hself {f g : Record → Record} : ∀ u ∈ h.records, Record.only n f u = Record.only n g u :=
      fun u hu => (Host.only_eq_self hr u hu).symm.trans (Host.only_eq_self hr u hu)
    rcases perform_leaves (s := s) hs c with hleaves | hleaves | hleaves
    · exact hleaves.congr (Host.only_eq_self hr) hnumber
    · exact hleaves.congr hself hnumber
    · exact hleaves
  | some r =>
    cases hset : Metadata.set t.digits r.issue.body metadataKey c.stored with
    | error fault =>
      have hnoted : c.noted t.digits r = r := by rw [Consequence.noted, hset]
      have hperformed : c.performed t.digits s.label r = r := by rw [Consequence.performed, hset]
      rcases perform_leaves (s := s) hs c with hleaves | hleaves | hleaves
      · rw [← Record.only_id n] at hleaves
        exact hleaves.congr (Host.only_eq_only hr hperformed.symm) hnumber
      · exact hleaves.congr (Host.only_eq_only hr (hnoted.trans hperformed.symm)) hnumber
      · exact hleaves
    | ok body =>
      obtain ⟨h', hok, hadv⟩ := Tracker.setMetadata_ok hs hr hset (Tracker.spares_of_fails hcalm _)
      rw [perform_stored hok]
      exact leaves_performed hr hset ⟨_, hadv⟩ (relabel_calm hs hcalm (hadv.record? hr) c)

end Calm

end Perform

/-- A comment comes to nothing or to a consequence that can be stored, whatever the host and whichever
calls fail. -/
lemma Delivery.handle_effect (s : DuplicateSettings) (d : Delivery) (limit : DigitLimit) :
    (∀ t h, t.digits = limit → (d.handle s t h).2 = h) ∨
      ∃ c : Consequence, c.IsWritable limit ∧ ∀ t h, t.digits = limit →
        (d.handle s t h).2 = (perform s d.issue.number c t h).2 := by
  unfold Delivery.handle handleComment
  by_cases hopen : d.issue.isOpen = true
  · simp only [hopen, if_true]
    have hlimit {t : Tracker} {h : Host} (ht : t.digits = limit) :
        (Op.digitLimit : Op Failure DigitLimit) t h = (.ok limit, h) := by
      rw [Op.digitLimit, ht]
    cases hc : consequence limit d.action d.body d.previous with
    | error fault =>
      refine .inl fun t h ht => ?_
      rw [Op.bind_ok (hlimit ht), hc]
      rfl
    | ok found =>
      cases found with
      | none =>
        refine .inl fun t h ht => ?_
        rw [Op.bind_ok (hlimit ht), hc]
        rfl
      | some c =>
        refine .inr ⟨c, isWritable_of_consequence hc, fun t h ht => ?_⟩
        rw [Op.bind_ok (hlimit ht), hc]
        exact Op.bind_leaves fun _ _ _ => rfl
  · simp only [hopen]
    exact .inl fun _ _ _ => rfl

/-! ## A tracker that evaluates queries -/

def searchTracker : Tracker where
  scope := ⟨"acme", "desk"⟩
  home := "acme/desk"
  find := Query.search []

def twinBody : String := "Crash\n\n<!-- ladybug = \x7b\"duplicateOf\": 1\x7d -->"

def twin (n : Int) : Record where
  issue := {
    number := n
    body := some twinBody
    state := "open"
    labels := [.named "duplicate"] }

/-- Two duplicates of an issue that was closed. -/
def twinHost : Host where
  records := [{ issue := { number := 1, state := "closed" } }, twin 2, twin 3]
  distinct := by decide

lemma isMarked_twins : ∀ r ∈ twinHost.records, IsMarked .standard r.issue.body := by
  have hplain : IsMarked .standard none :=
    ⟨[], none, by simp, rfl, by decide⟩
  have htwin : IsMarked .standard (some twinBody) :=
    ⟨"Crash".toList, some 1, by decide +kernel, by decide +kernel, by decide⟩
  intro r hr
  simp only [twinHost, List.mem_cons, List.not_mem_nil, or_false] at hr
  rcases hr with rfl | rfl | rfl
  · exact hplain
  · exact htwin
  · exact htwin

lemma selects_candidates (c : Cascade) (i : Issue) :
    Query.selects (c.query "duplicate" searchTracker.scope) i =
      (!i.isPullRequest && i.state == c.source.text && decide ("duplicate" ∈ i.labelNames)) := by
  have hterms : Query.terms (c.query "duplicate" searchTracker.scope) =
      [⟨false, "is", "issue"⟩, ⟨false, "is", c.source.text⟩, ⟨false, "label", "duplicate"⟩,
        ⟨false, "repo", "acme/desk"⟩] := by
    cases c <;> decide +kernel
  rw [Query.selects, hterms]
  cases c <;> simp [Query.Term.holds, Query.Term.condition, Query.namedCondition?,
    Query.namedCondition?.typeCondition?, Cascade.source, IssueState.text, Bool.and_assoc]

/-- Evaluating the query of a cascade finds what the cascade asks for. -/
lemma finds_searchTracker (c : Cascade) (h : Host) :
    Cascade.FindsExactly searchTracker h (c.query "duplicate" searchTracker.scope) c.source.text
      "duplicate" := by
  have hfind : searchTracker.find (c.query "duplicate" searchTracker.scope) h.issues =
      h.issues.filter (Query.selects (c.query "duplicate" searchTracker.scope)) := rfl
  constructor
  · have hdistinct : (h.issues.map (·.number)).Nodup := by
      unfold Host.issues
      rw [List.map_map]
      exact h.distinct
    rw [hfind]
    exact hdistinct.of_map.filter _
  · intro i
    rw [hfind, List.mem_filter, selects_candidates]
    simp [and_assoc]

end Duplicate

end Triage
