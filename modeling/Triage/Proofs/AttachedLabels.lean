import Mathlib
import Triage.Proofs.LabelNamespaces

/-!
# What an attached label leaves

A label displaces the labels that begin with its namespace, and its namespace reaches up to the last colon
of its first line. So a label that goes on with another colon leaves some labels that begin with its first
part. The labels that are written are those of the snapshot which came with the event. Whatever was
attached to the issue since that snapshot is lost, if there is anything to write at all.
-/

namespace Triage.Labels

/-- How far a namespace reaches into the text behind a colon: up to the last colon of its first line. -/
def innerNamespace (value : String) : String :=
  String.ofList ((value.toList.takeWhile (· ≠ '\n')).rdropWhile (· ≠ ':'))

variable {ns value : String}

lemma toList_head (ns value : String) : (ns ++ ":" ++ value).toList = ns.toList ++ ':' :: value.toList := by
  simp

lemma namespace?_of_head (hne : ns ≠ "")
    (hline : '\n' ∉ ns.toList) : namespace? (ns ++ ":" ++ value) =
      some (ns ++ ":" ++ innerNamespace value) := by
  have hplain : ∀ c ∈ ns.toList, decide (c ≠ '\n') = true := by
    intro c hc
    simpa using fun h : c = '\n' => hline (h ▸ hc)
  have hfirst : (ns ++ ":" ++ value).toList.takeWhile (· ≠ '\n') =
      ns.toList ++ ':' :: value.toList.takeWhile (· ≠ '\n') := by
    rw [toList_head, List.takeWhile_append_of_pos hplain]
    rfl
  obtain ⟨c, cs, hcs⟩ := List.exists_cons_of_ne_nil (fun h => hne (String.toList_eq_nil_iff.mp h))
  rw [namespace?, hfirst, hcs, List.cons_append, upToLastColon_cons, if_pos (by simp),
    rdropWhile_append_colon, Option.map_some, Option.some.injEq]
  apply String.toList_injective
  rw [String.toList_ofList, toList_head, hcs, innerNamespace, String.toList_ofList]
  rfl

lemma isIn_of_isIn_append {more label : String} (h : isIn (ns ++ more) label = true) :
    isIn ns label = true := by
  rw [isIn, List.isPrefixOf_iff_prefix] at h ⊢
  rw [String.toList_append] at h
  exact (List.prefix_append ns.toList more.toList).trans h

lemma innerNamespace_of_notMem (h : ':' ∉ value.toList.takeWhile (· ≠ '\n')) :
    innerNamespace value = "" := by
  rw [innerNamespace, rdropWhile_colon h, String.ofList_nil]

/-- A label that begins with a name and a colon is attached. The labels that do not begin so are left as
they are, and the attached one is the only one left that begins so exactly when the others all begin with
its whole namespace. They do where no further colon stands in the first line of the label. -/
theorem exclusive?_of_head (ns value : String) (current : List String) (hne : ns ≠ "")
    (hline : '\n' ∉ ns.toList) : ∃ labels, exclusive? current (ns ++ ":" ++ value) = some labels ∧
      labels.filter (!isIn (ns ++ ":") ·) = current.filter (!isIn (ns ++ ":") ·) ∧
      (labels.filter (isIn (ns ++ ":")) = [ns ++ ":" ++ value] ↔
        ∀ l ∈ current, isIn (ns ++ ":") l = true → isIn (ns ++ ":" ++ innerNamespace value) l = true) ∧
      (':' ∉ value.toList.takeWhile (· ≠ '\n') →
        labels.filter (isIn (ns ++ ":")) = [ns ++ ":" ++ value]) := by
  have hattached : isIn (ns ++ ":") (ns ++ ":" ++ value) = true := by
    rw [isIn, List.isPrefixOf_iff_prefix, String.toList_append (s := ns ++ ":")]
    exact List.prefix_append _ _
  have hothers : ∀ l, (!isIn (ns ++ ":") l && !isIn (ns ++ ":" ++ innerNamespace value) l) =
      !isIn (ns ++ ":") l := by
    intro l
    cases hin : isIn (ns ++ ":" ++ innerNamespace value) l with
    | true => simp [isIn_of_isIn_append hin]
    | false => simp
  have honly : (current.filter (!isIn (ns ++ ":" ++ innerNamespace value) ·) ++
        [ns ++ ":" ++ value]).filter (isIn (ns ++ ":")) = [ns ++ ":" ++ value] ↔
      ∀ l ∈ current, isIn (ns ++ ":") l = true → isIn (ns ++ ":" ++ innerNamespace value) l = true := by
    rw [List.filter_append, List.filter_filter, List.filter_singleton, hattached, cond_true,
      List.append_left_eq_self, List.filter_eq_nil_iff]
    refine forall₂_congr fun l _ => ?_
    simp
  refine ⟨_, by rw [exclusive?, namespace?_of_head hne hline]; rfl, ?_, honly, fun hcolon => ?_⟩
  · rw [List.filter_append, List.filter_filter, List.filter_singleton, hattached]
    simp only [hothers, Bool.not_true, cond_false, List.append_nil]
  · apply honly.mpr
    intro l _ hl
    rwa [innerNamespace_of_notMem hcolon, String.append_empty]

/-- One of the labels that begin with the first part goes on like the attached one, and gives way. -/
theorem exclusive?_of_head_nested : "a" ≠ "" ∧ '\n' ∉ "a".toList ∧
    ∃ labels, exclusive? ["a:b:x", "bug"] ("a" ++ ":" ++ "b:c") = some labels ∧
      labels.filter (isIn ("a" ++ ":")) = ["a" ++ ":" ++ "b:c"] := by
  have hname : "a" ≠ "" := by decide
  have hline : '\n' ∉ "a".toList := by decide
  obtain ⟨labels, hlabels, -, honly, -⟩ := exclusive?_of_head "a" "b:c" ["a:b:x", "bug"] hname hline
  exact ⟨hname, hline, labels, hlabels, honly.mpr (by decide +kernel)⟩

/-- A label that begins with the first part and goes on in another way is left beside the attached one. -/
theorem exclusive?_leaves_two : exclusive? ["a:x"] ("a" ++ ":" ++ "b:c") = some ["a:x", "a:b:c"] ∧
    ["a:x", "a:b:c"].filter (isIn ("a" ++ ":")) = ["a:x", "a:b:c"] := by
  constructor <;> decide +kernel

end Triage.Labels

namespace Triage.PeerLabels

open Labels (Crowds isApart isIn)

variable {c : Configuration} {t : Tracker} {label : String} {h : Host} {r : Record}

/-- A delivery about an attached label may come late, with a snapshot of any age. A label that is on the
issue by then, apart from the attached one's namespace, stays on it exactly when the snapshot shows it too
or shows no label that has to give way. -/
theorem late_delivery_keeps_iff (c : Configuration) (t : Tracker) (h : Host) {event : String}
    {payload : Json} {issue : Issue} {label : String} {r : Record} (hpeers : c.peerLabels = true)
    (hscope : t.scope.fullName = t.home) (hcalm : ∀ log, t.fails log = none)
    (hevent : Announces event payload issue label) (hr : h.record? issue.number = some r)
    (now : Moment) :
    ∃ h' r', Event.handle event payload c now t h = (.ok (some "issues.labeled"), h') ∧
      h'.record? issue.number = some r' ∧
      ∀ l ∈ r.issue.labelNames, isApart label l = true →
        (l ∈ r'.issue.labelNames ↔ (Crowds label issue.labelNames → l ∈ issue.labelNames)) := by
  obtain ⟨removed, h', r', hremove, hr', hlabels, -⟩ :=
    remove_writes hscope hcalm label hr
  rw [← hpeers] at hremove
  refine ⟨h', r', handle_labeled hevent hremove now, hr', ?_⟩
  intro l hl hapart
  rw [hlabels]
  cases hchange : change? issue label with
  | none =>
    have hfree := change?_eq_none_iff.mp hchange
    exact iff_of_true hl fun hcrowds => absurd hcrowds hfree
  | some labels =>
    obtain ⟨ns, hns, rfl⟩ := change?_eq_some hchange
    have hcrowds : Crowds label issue.labelNames := by
      by_contra hfree
      rw [← change?_eq_none_iff, hchange] at hfree
      cases hfree
    have hout : isIn ns l = false := by
      rw [Labels.isApart_eq hns] at hapart
      simpa using hapart
    -- the attached label itself lies in its namespace, so it is not the one that was asked for
    have hne : l ≠ label := by
      rintro rfl
      rw [Labels.isIn_iff.mpr hns.isPrefix] at hout
      cases hout
    simp [hout, hne, hcrowds]

/-- The issue after its `a:old` was taken off and `bug` was added. -/
def movedHost : Host where
  records := [{ issue := {
    number := 4, state := "open", labels := [.named "a:new", .named "kept", .named "bug"] } }]

/-- The delivery about `a:new` from before that. -/
def latePayload : Json := labeledPayload 4 ["a:old", "kept", "a:new"] "a:new"

lemma announces_latePayload :
    Announces "issues" latePayload (shelfIssue ["a:old", "kept", "a:new"]) "a:new" :=
  announces_labeledPayload rfl (by decide +kernel)

theorem late_delivery_keeps_iff_moved :
    ({} : Configuration).peerLabels = true ∧ shelfTracker.scope.fullName = shelfTracker.home ∧
      (∀ log, shelfTracker.fails log = none) ∧
      ∃ h' r', Event.handle "issues" latePayload {} shelfNow shelfTracker movedHost =
          (.ok (some "issues.labeled"), h') ∧
        h'.record? 4 = some r' ∧ "kept" ∈ r'.issue.labelNames := by
  obtain ⟨h', r', hhandle, hr', hkeeps⟩ := late_delivery_keeps_iff {} shelfTracker movedHost rfl rfl
    (fun _ => rfl) announces_latePayload rfl shelfNow
  refine ⟨rfl, rfl, fun _ => rfl, h', r', hhandle, hr', (hkeeps "kept" (by decide) ?_).mpr ?_⟩
  · decide +kernel
  · exact fun _ => by decide

theorem late_delivery_drops_bug :
    Announces "issues" latePayload (shelfIssue ["a:old", "kept", "a:new"]) "a:new" ∧
      (movedHost.record? 4).map (·.issue.labelNames) = some ["a:new", "kept", "bug"] ∧
      isApart "a:new" "bug" = true ∧
      ((Event.handle "issues" latePayload {} shelfNow shelfTracker movedHost).2.record? 4).map
        (·.issue.labelNames) = some ["kept", "a:new"] :=
  ⟨announces_latePayload, by decide +kernel, by decide +kernel, by decide +kernel⟩

end Triage.PeerLabels
