import Mathlib
import Triage.Duplicate.Relation
import Triage.Proofs.MetadataRoundTrip
import Triage.Proofs.TrackerCalls

/-!
# Comments and the duplicate relation

A machine keeps for every issue the issue it duplicates and its labels, and changes one pair with each
comment. The tracker keeps the same pairs in the bodies and labels of the issues: while no call fails,
every sequence of comments brings both to the same state.
-/

namespace Triage.Duplicate

open Metadata (Carries Storable)

/-- The number that a comment refers to at its beginning. -/
def mentions? (body : Option String) : Option Nat :=
  body.bind fun b =>
    (Text.dropLiteral? referenceLead b.toList).bind fun rest =>
      let ds := rest.takeWhile Text.isDigit
      if ds = [] then none else some (Text.numeral ds)

lemma reference_none (body : Option String) : reference none body = .ok (mentions? body) := by
  cases body with
  | none => rfl
  | some b =>
    simp only [reference, referenceIn, mentions?, Option.bind_some]
    cases hd : Text.dropLiteral? referenceLead b.toList with
    | none => rfl
    | some rest =>
      by_cases hds : rest.takeWhile Text.isDigit = []
      · simp only [hds, if_true, Option.bind_some]
      · simp only [hds, if_false, Option.bind_some, Text.readNumeral_none]
        rfl

/-- What the machine keeps of one issue. -/
structure Standing where
  target : Option Nat
  labels : List String

/-- A comment that was created, edited or deleted, with the issue as it was then. -/
structure Delivery where
  action : CommentAction
  issue : Issue
  body : Option String
  previous : Option String := none

namespace Delivery

/-- What the machine does about a comment. Comments on issues that are not open do nothing. -/
def verdict (d : Delivery) : Option Consequence :=
  if d.issue.state = "open" then
    match d.action, mentions? d.body, mentions? d.previous with
    | .created, some n, _ => some (.mark n)
    | .edited, some n, _ => some (.mark n)
    | .edited, none, some _ => some .unmark
    | .deleted, some _, _ => some .unmark
    | _, _, _ => none
  else none

/-- The comment as the tracker handles it. -/
def handle (s : DuplicateSettings) (d : Delivery) : Op Failure (Option Consequence) :=
  handleComment (some s) d.action d.issue d.body d.previous

lemma handle_eq {t : Tracker} (ht : t.digits = none) (s : DuplicateSettings) (d : Delivery)
    (h : Host) :
    d.handle s t h =
      match d.verdict with
      | none => (.ok none, h)
      | some c => (do perform s d.issue.number c; return some c : Op Failure _) t h := by
  have hconsequence : consequence none d.action d.body d.previous =
      .ok (consequenceOf d.action (mentions? d.body)
        (if d.action = .edited then mentions? d.previous else none)) := by
    simp only [consequence, reference_none]
    by_cases he : d.action = .edited
    · simp only [he, if_true]
      rfl
    · simp only [he, if_false]
      rfl
  have hopen : d.issue.isOpen = true ↔ d.issue.state = "open" := by simp [Issue.isOpen]
  simp only [handle, handleComment]
  by_cases hstate : d.issue.state = "open"
  · have hverdict : d.verdict = consequenceOf d.action (mentions? d.body)
        (if d.action = .edited then mentions? d.previous else none) := by
      rw [verdict, if_pos hstate]
      cases d.action <;> cases mentions? d.body <;> cases mentions? d.previous <;> rfl
    rw [if_pos (hopen.mpr hstate), hverdict]
    refine (Op.bind_ok (x := Op.digitLimit) rfl _).trans ?_
    rw [ht, hconsequence]
    cases consequenceOf d.action (mentions? d.body)
      (if d.action = .edited then mentions? d.previous else none) <;> rfl
  · rw [if_neg (fun h => hstate (hopen.mp h)), verdict, if_neg hstate]
    rfl

end Delivery

/-- The pair after the consequence of a comment. -/
def Standing.after (label : String) (s : Standing) : Option Consequence → Standing
  | some (.mark n) => ⟨some n, [label]⟩
  | some .unmark => ⟨none, s.labels.filter (· ≠ label)⟩
  | none => s

/-- The pairs of all issues. -/
abbrev Board := Int → Standing

/-- The pairs before any comment: no issue is a duplicate. -/
def Board.initial (h : Host) : Board := fun n =>
  ⟨none, ((h.record? n).map (·.issue.labelNames)).getD []⟩

def Board.after (label : String) (b : Board) (d : Delivery) : Board :=
  Function.update b d.issue.number ((b d.issue.number).after label d.verdict)

/-- The metadata of an issue that refers to a target. -/
def fieldsOf (target : Option Nat) : Json.Object :=
  target.toList.map fun n => (.ofString metadataKey, .int n)

/-- A record that shows a pair: its metadata and labels are the pair's, the text of its body is that of
the original up to line feeds at its end, and everything else is the original's. -/
structure Mirrors (origin : Record) (s : Standing) (r : Record) : Prop where
  metadata : Metadata.read none r.issue.body = .ok (fieldsOf s.target)
  labels : r.issue.labelNames = s.labels
  text : Metadata.dropTrailingNewlines (Metadata.strip (r.issue.body.getD "").toList) =
    Metadata.dropTrailingNewlines (origin.issue.body.getD "").toList
  rest : r = { origin with
    issue := { origin.issue with body := r.issue.body, labels := r.issue.labels } }

/-- The form in which the tracker keeps it: the body carries the pair's metadata. -/
structure Keeps (origin : Record) (s : Standing) (r : Record) : Prop where
  body : ∃ text, Carries r.issue.body text (fieldsOf s.target) ∧
    Metadata.dropTrailingNewlines text =
      Metadata.dropTrailingNewlines (origin.issue.body.getD "").toList
  labels : r.issue.labelNames = s.labels
  rest : r = { origin with
    issue := { origin.issue with body := r.issue.body, labels := r.issue.labels } }

lemma storable_target {limit : DigitLimit} {value : Json}
    (hv : value = .null ∨ ∃ n, value = .int n ∧ limit.admits n = true) :
    Storable limit [(.ofString metadataKey, value)] := by
  have hkey : ¬Metadata.closing <:+: (CodeText.ofString metadataKey).chars := by decide +kernel
  have hvalue : Json.All (Json.Exact limit) value ∧ Json.All Metadata.AvoidsClosing value := by
    rcases hv with rfl | ⟨n, rfl, hn⟩
    · exact ⟨trivial, trivial⟩
    · exact ⟨hn, trivial⟩
  constructor
  · refine ⟨⟨by simp [Entries.keys], ?_⟩, hvalue.1, trivial⟩
    simp [Entries.keys, CodeText.hasHalf_ofString]
  · refine ⟨fun k hk => ?_, hvalue.2, trivial⟩
    obtain rfl : k = .ofString metadataKey := List.mem_singleton.mp hk
    exact hkey

lemma storable_fieldsOf (target : Option Nat) : Storable none (fieldsOf target) := by
  cases target with
  | none => exact Metadata.storable_nil none
  | some n => exact storable_target (.inr ⟨n, rfl, rfl⟩)

lemma sortedObject_fieldsOf (target : Option Nat) :
    Metadata.sortedObject (fieldsOf target) = fieldsOf target := by
  cases target with
  | none => simp [Metadata.sortedObject, fieldsOf, Json.sortedFields]
  | some n => simp [Metadata.sortedObject, fieldsOf, Json.sortedFields, Json.sorted]

lemma put_fieldsOf (target : Option Nat) (value : Json) :
    Entries.put (.ofString metadataKey) value (fieldsOf target) =
      [(.ofString metadataKey, value)] := by
  cases target <;> simp [fieldsOf, Entries.put]

lemma Keeps.mirrors {origin r : Record} {s : Standing} (h : Keeps origin s r) : Mirrors origin s r := by
  obtain ⟨text, hcarries, htext⟩ := h.body
  have hread := hcarries.read (storable_fieldsOf s.target).lodges
  rw [sortedObject_fieldsOf] at hread
  have hstrip := (hcarries.strip (storable_fieldsOf s.target).lodges).2
  exact ⟨hread, h.labels, hstrip.trans htext, h.rest⟩

namespace Consequence

/-- The target of an issue after a consequence. -/
def target? : Consequence → Option Nat
  | .mark n => some n
  | .unmark => none

/-- What a consequence stores under the target. -/
def stored : Consequence → Json
  | .mark n => .int n
  | .unmark => .null

/-- What a consequence does to the labels. -/
def labelChange (label : String) : Consequence → Change
  | .mark _ => .setLabels [label]
  | .unmark => .removeLabel label

lemma storable_stored (c : Consequence) : Storable none [(.ofString metadataKey, c.stored)] := by
  refine storable_target ?_
  cases c with
  | mark n => exact .inr ⟨n, rfl, rfl⟩
  | unmark => exact .inl rfl

lemma withoutNulls_stored (c : Consequence) :
    Metadata.withoutNulls [(.ofString metadataKey, c.stored)] = fieldsOf c.target? := by
  cases c <;> rfl

end Consequence

lemma after_removeLabel (label : String) (r : Record) :
    r.after (.removeLabel label) =
      { r with issue := { r.issue with labels := r.issue.labels.filter (·.name ≠ label) } } := by
  by_cases hl : label ∈ r.issue.labelNames
  · simp only [Record.after, Record.apply, hl, if_true, Option.getD_some]
  · have hfilter : r.issue.labels.filter (·.name ≠ label) = r.issue.labels := by
      refine List.filter_eq_self.mpr fun l hmem => ?_
      simpa using fun hn => hl (List.mem_map.mpr ⟨l, hmem, hn⟩)
    simp only [Record.after, Record.apply, hl, if_false, Option.getD_none, hfilter]

lemma Keeps.after {origin r : Record} {s : Standing} (h : Keeps origin s r) {c : Consequence}
    {body : String} (label : String)
    (hbody : Carries (some body) (Metadata.strip (r.issue.body.getD "").toList) (fieldsOf c.target?)) :
    Keeps origin (s.after label (some c)) ((r.after (.setBody body)).after (c.labelChange label)) := by
  obtain ⟨text, hcarries, htext⟩ := h.body
  have hstrip := (hcarries.strip (storable_fieldsOf s.target).lodges).2
  have hrest := h.rest
  cases c with
  | mark n =>
    refine ⟨⟨_, hbody, hstrip.trans htext⟩, ?_, ?_⟩
    · simp [Consequence.labelChange, Record.after, Record.apply, Issue.labelNames, Standing.after,
        Label.named]
    · rw [hrest]
      rfl
  | unmark =>
    rw [Consequence.labelChange, after_removeLabel]
    refine ⟨⟨_, hbody, hstrip.trans htext⟩, ?_, ?_⟩
    · have hnames : (r.issue.labels.filter (·.name ≠ label)).map (·.name) =
          r.issue.labelNames.filter (· ≠ label) := by
        rw [Issue.labelNames, List.filter_map]
        rfl
      rw [h.labels] at hnames
      exact hnames
    · rw [hrest]
      rfl

lemma perform_ok {s : DuplicateSettings} {t : Tracker} {h : Host} {n : Int} {r : Record}
    {text : List Char} {target : Option Nat} (hs : t.scope.fullName = t.home)
    (ht : ∀ log, t.fails log = none) (hd : t.digits = none) (hr : h.record? n = some r)
    (hcarries : Carries r.issue.body text (fieldsOf target)) (c : Consequence) :
    ∃ h' calls body, perform s n c t h = (.ok (), h') ∧
      h.Advances h' calls (Record.only n (Record.after (c.labelChange s.label)) ∘
        Record.only n (Record.after (.setBody body))) ∧
      Carries (some body) (Metadata.strip (r.issue.body.getD "").toList) (fieldsOf c.target?) := by
  have hput : Entries.put (.ofString metadataKey) c.stored
      (Metadata.sortedObject (fieldsOf target)) = [(.ofString metadataKey, c.stored)] := by
    rw [sortedObject_fieldsOf, put_fieldsOf]
  obtain ⟨body, hset, hbody⟩ := hcarries.set (storable_fieldsOf target).lodges
    (hput ▸ c.storable_stored.lodges)
  rw [hput, c.withoutNulls_stored] at hbody
  rw [← hd] at hset
  obtain ⟨h₁, hstored, hadv₁⟩ := Tracker.setMetadata_ok (t := t) hs hr hset
    (Tracker.spares_of_fails ht _)
  have hr₁ := hadv₁.record? hr
  cases c with
  | mark m =>
    obtain ⟨h₂, hlabels, hadv₂⟩ := Tracker.alter_ok (t := t) (c := .setLabels [s.label]) hs hr₁ rfl
      (Tracker.spares_of_fails ht _) (.replaceLabels n)
    exact ⟨h₂, _, body, (Op.bind_ok hstored _).trans hlabels, hadv₁.trans hadv₂, hbody⟩
  | unmark =>
    have hspares : t.spares n h₁.log [.fetch n, .change n (.removeLabel s.label)] = true :=
      Tracker.spares_of_fails ht _
    obtain ⟨h₂, hlabels, hadv₂⟩ := Tracker.removeLabel_ok hs hr₁ hspares
    exact ⟨h₂, _, body, (Op.bind_ok hstored _).trans hlabels, hadv₁.trans hadv₂, hbody⟩

/-- A host has the issues of the origins, and every record keeps its pair of the board. -/
structure Agree (origins : List Record) (b : Board) (h : Host) : Prop where
  numbers : h.records.map Record.number = origins.map Record.number
  keeps : ∀ origin ∈ origins, ∃ r, h.record? origin.number = some r ∧
    Keeps origin (b origin.number) r

/-- Handling one comment brings the host to the state of the machine after the comment. -/
theorem handle_agrees {s : DuplicateSettings} {t : Tracker} {h : Host} {origins : List Record}
    {b : Board} (hs : t.scope.fullName = t.home) (ht : ∀ log, t.fails log = none)
    (hd : t.digits = none) (d : Delivery) (hknown : d.issue.number ∈ origins.map Record.number)
    (hb : Agree origins b h) :
    ∃ h', d.handle s t h = (.ok d.verdict, h') ∧ Agree origins (b.after s.label d) h' := by
  rw [Delivery.handle_eq hd]
  cases hv : d.verdict with
  | none =>
    refine ⟨h, rfl, ?_⟩
    rw [Board.after, hv, Standing.after, Function.update_eq_self]
    exact hb
  | some c =>
    obtain ⟨origin, horigin, hnumber⟩ := List.mem_map.mp hknown
    obtain ⟨r, hr, hkeeps⟩ := hb.keeps origin horigin
    obtain ⟨text, hcarries, -⟩ := hkeeps.body
    obtain ⟨h', calls, body, hperform, hadv, hbody⟩ := perform_ok (s := s) hs ht hd hr hcarries c
    rw [hnumber] at hperform
    refine ⟨h', (Op.bind_ok hperform _).trans rfl, ?_, fun other hother => ?_⟩
    · rw [hadv.records, List.map_map, ← hb.numbers]
      exact List.map_congr_left fun u _ => hadv.number u
    · obtain ⟨u, hu, hkept⟩ := hb.keeps other hother
      have hnum : u.number = other.number := (Host.record?_eq_some_iff.mp hu).2
      refine ⟨_, hadv.record? hu, ?_⟩
      rw [Function.comp_apply, Board.after]
      by_cases hn : other.number = origin.number
      · -- the record of the commented issue
        rw [hn] at hu hkept
        obtain rfl : u = r := Option.some.inj (hu.symm.trans hr)
        rw [Record.only_of_eq (hnum.trans hn),
          Record.only_of_eq ((Record.number_after _ u).trans (hnum.trans hn)), hn, hnumber,
          Function.update_self, hv]
        rw [hnumber] at hkept
        exact hkept.after s.label hbody
      · have hne : u.number ≠ origin.number := fun h => hn (hnum.symm.trans h)
        rw [Record.only_of_ne hne, Record.only_of_ne hne,
          Function.update_of_ne (fun h => hn (h.trans hnumber.symm))]
        exact hkept

theorem deliveries_agree {s : DuplicateSettings} {t : Tracker} {origins : List Record}
    (hs : t.scope.fullName = t.home) (ht : ∀ log, t.fails log = none) (hd : t.digits = none)
    (ds : List Delivery) (hknown : ∀ d ∈ ds, d.issue.number ∈ origins.map Record.number) {h : Host}
    {b : Board} (hb : Agree origins b h) :
    ∃ h', Op.each (Delivery.handle s) ds t h = (.ok (ds.map Delivery.verdict), h') ∧
      Agree origins (ds.foldl (Board.after s.label) b) h' := by
  induction ds generalizing h b with
  | nil => exact ⟨h, rfl, hb⟩
  | cons d ds ih =>
    obtain ⟨h₁, hfirst, hb₁⟩ := handle_agrees (s := s) hs ht hd d (hknown d List.mem_cons_self) hb
    obtain ⟨h₂, hrest, hb₂⟩ := ih (fun e he => hknown e (List.mem_cons_of_mem d he)) hb₁
    refine ⟨h₂, ?_, hb₂⟩
    exact (Op.bind_ok hfirst _).trans ((Op.bind_ok hrest _).trans rfl)

lemma agree_initial {h : Host}
    (hclean : ∀ r ∈ h.records, ¬Metadata.opening <:+: (r.issue.body.getD "").toList) :
    Agree h.records (Board.initial h) h where
  numbers := rfl
  keeps origin horigin := by
    have hr : h.record? origin.number = some origin := Host.record?_eq_some_iff.mpr ⟨horigin, rfl⟩
    refine ⟨origin, hr, ⟨_, Metadata.carries_of_clean (hclean origin horigin), rfl⟩, ?_, rfl⟩
    rw [Board.initial, hr]
    rfl

/-- Any sequence of comments on issues whose bodies hold no metadata yet: every comment is answered as
the machine answers it, and afterwards every issue shows its pair of the machine. -/
theorem deliveries_refine (s : DuplicateSettings) (t : Tracker) (h : Host) (ds : List Delivery)
    (hscope : t.scope.fullName = t.home) (hcalls : ∀ log, t.fails log = none)
    (hdigits : t.digits = none)
    (hclean : ∀ r ∈ h.records, ¬Metadata.opening <:+: (r.issue.body.getD "").toList)
    (hknown : ∀ d ∈ ds, d.issue.number ∈ h.records.map Record.number) :
    ∃ h', Op.each (Delivery.handle s) ds t h = (.ok (ds.map Delivery.verdict), h') ∧
      h'.records.map Record.number = h.records.map Record.number ∧
      ∀ origin ∈ h.records,
        let standing := ds.foldl (Board.after s.label) (Board.initial h) origin.number
        (Tracker.getMetadata origin.number metadataKey t h').1 =
          .ok (standing.target.map fun n => .int n) ∧
        ∃ r, h'.record? origin.number = some r ∧ Mirrors origin standing r := by
  obtain ⟨h', hrun, hagree⟩ :=
    deliveries_agree (s := s) hscope hcalls hdigits ds hknown (agree_initial hclean)
  refine ⟨h', hrun, hagree.numbers, fun origin horigin => ?_⟩
  obtain ⟨r, hr, hkeeps⟩ := hagree.keeps origin horigin
  have hmirrors := hkeeps.mirrors
  refine ⟨?_, r, hr, hmirrors⟩
  rw [Tracker.getMetadata_eq hscope hr (hcalls _), hdigits, Metadata.get, hmirrors.metadata]
  cases (ds.foldl (Board.after s.label) (Board.initial h) origin.number).target <;> rfl

def deskTracker : Tracker where
  scope := ⟨"acme", "desk"⟩
  home := "acme/desk"
  digits := none
  find _ issues := issues

def deskHost : Host where
  records := [
    { issue := {
        number := 7, body := some "It crashes.\n", state := "open", labels := [.named "bug"] } },
    { issue := { number := 3, state := "open" } }]
  distinct := by decide

def deskComments : List Delivery :=
  let opened (n : Int) : Issue := { number := n, state := "open" }
  [⟨.created, opened 7, some "Duplicate of #3", none⟩,
    ⟨.edited, opened 7, some "No, it is new", some "Duplicate of #3"⟩,
    ⟨.created, { number := 7, state := "closed" }, some "Duplicate of #4", none⟩,
    ⟨.created, opened 3, some "Duplicate of #12.", none⟩]

/-- A mark that is taken back, a comment on a closed issue, and a mark that stays. -/
theorem deliveries_refine_mark_and_unmark :
    ∃ h',
      Op.each (Delivery.handle ⟨"duplicate", true, true⟩) deskComments deskTracker deskHost =
        (.ok [some (.mark 3), some .unmark, none, some (.mark 12)], h') ∧
      (Tracker.getMetadata 7 metadataKey deskTracker h').1 = .ok none ∧
      (Tracker.getMetadata 3 metadataKey deskTracker h').1 = .ok (some (.int 12)) := by
  obtain ⟨h', hrun, -, hall⟩ := deliveries_refine ⟨"duplicate", true, true⟩ deskTracker deskHost
    deskComments rfl (fun _ => rfl) rfl (by decide +kernel) (by decide +kernel)
  have hverdicts : deskComments.map Delivery.verdict =
      [some (.mark 3), some .unmark, none, some (.mark 12)] := by decide +kernel
  have h7 := (hall _ (List.mem_cons_self)).1
  have h3 := (hall _ (List.mem_cons_of_mem _ List.mem_cons_self)).1
  let board := deskComments.foldl (Board.after "duplicate") (Board.initial deskHost)
  have hstanding (n : Int) (target : Option Nat) (ht : (board n).target = target) :
      (.ok ((board n).target.map fun m => .int m) : Except Failure (Option Json)) =
        .ok (target.map fun m => .int m) := by rw [ht]
  rw [hverdicts] at hrun
  refine ⟨h', hrun, h7.trans ?_, h3.trans ?_⟩
  · exact hstanding 7 none (by decide +kernel)
  · exact hstanding 3 (some 12) (by decide +kernel)

end Triage.Duplicate
