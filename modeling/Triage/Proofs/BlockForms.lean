import Mathlib
import Triage.Proofs.RecordForms
import Triage.Rule.Block

/-!
# Forms of predicates and actions

The fields of predicates and of action sets come in a few kinds. A kind may take its contents in several
spellings, but writes each of them in one that it takes for the same.
-/

namespace Triage

open Checked Value Value.Mapping

namespace Value

lemma asString_ofString (s : String) : asString (.str (.ofString s)) = .ok s :=
  congrArg Checked.ok (CodeText.string_ofString s)

lemma asStrings_ofStrings (texts : List String) : asStrings (ofStrings texts) = .ok texts := by
  have hall : ∀ i, Checked.all asString i (texts.map fun s => .str (.ofString s)) = .ok texts := by
    induction texts with
    | nil => exact fun _ => rfl
    | cons s texts ih =>
      intro i
      rw [List.map_cons, Checked.all, asString_ofString, ih]
      rfl
  exact hall 0

lemma asOneOf_ofString {α : Type} {options : List (String × α)} {s : String} {a : α}
    (h : options.lookup s = some a) : asOneOf options (.str (.ofString s)) = .ok a := by
  simp only [asOneOf, CodeText.string?_ofString, h]
  rfl

lemma map_str (text : Option String) : text.map Value.str = text.map fun s => Value.str (.ofString s) := by
  cases text <;> rfl

end Value

namespace Predicates

lemma parse_of_asDuration {v : Value} {text : String} (h : asDuration v = .ok text) :
    ∃ d, Duration.parse text = .ok d := by
  rw [asDuration] at h
  cases hs : v.asString with
  | faulty fs =>
    rw [hs] at h
    cases h
  | ok s =>
    rw [hs, Checked.bind] at h
    cases hp : Duration.parse s with
    | error fault =>
      rw [hp] at h
      cases h
    | ok d =>
      rw [hp] at h
      cases h
      exact ⟨d, hp⟩

end Predicates

namespace RecordField

variable {ρ : Type}

def text (key : String) (get : ρ → Option String) : RecordField ρ :=
  ⟨key, String, asString, fun s => .str (.ofString s), get, fun _ s _ => ⟨nofun, asString_ofString s⟩⟩

/-- A list of texts, of which a single one may stand by itself. -/
def texts (key : String) (get : ρ → Option (List String)) : RecordField ρ :=
  ⟨key, List String, asStrings, ofStrings, get, fun _ ss _ => ⟨nofun, asStrings_ofStrings ss⟩⟩

/-- One of several options, each of which has a text of its own. -/
def choice {α : Type} (options : List (String × α)) (text : α → String)
    (h : ∀ a, options.lookup (text a) = some a) (key : String) (get : ρ → Option α) : RecordField ρ :=
  ⟨key, α, asOneOf options, fun a => .str (.ofString (text a)), get,
    fun _ a _ => ⟨nofun, asOneOf_ofString (h a)⟩⟩

/-- A text or a bare no. -/
def textOrNo (key : String) (get : ρ → Option String) : RecordField ρ :=
  ⟨key, String, Predicates.orBareNo "no" asString, fun s => .str (.ofString s), get,
    fun _ s _ => ⟨nofun, asString_ofString s⟩⟩

/-- A list of texts or a bare no. -/
def textsOrNo (key : String) (get : ρ → Option (List String)) : RecordField ρ :=
  ⟨key, List String, Predicates.orBareNo ["no"] asStrings, ofStrings, get,
    fun _ ss _ => ⟨nofun, asStrings_ofStrings ss⟩⟩

lemma duration_reread (v : Value) (s : String) (h : Predicates.asDuration v = .ok s) :
    Value.str (.ofString s) ≠ .null ∧ Predicates.asDuration (.str (.ofString s)) = .ok s := by
  obtain ⟨d, hd⟩ := Predicates.parse_of_asDuration h
  refine ⟨nofun, ?_⟩
  rw [Predicates.asDuration, asString_ofString, Checked.bind, hd]

def duration (key : String) (get : ρ → Option String) : RecordField ρ :=
  ⟨key, String, Predicates.asDuration, fun s => .str (.ofString s), get, duration_reread⟩

lemma limit_reread (v : Value) (n : Int) (h : Predicates.asCommentLimit v = .ok n) :
    Value.int n ≠ .null ∧ Predicates.asCommentLimit (.int n) = .ok n := by
  refine ⟨nofun, ?_⟩
  rw [Predicates.asCommentLimit] at h ⊢
  cases hv : v.asInteger with
  | faulty fs =>
    rw [hv] at h
    cases h
  | ok k =>
    rw [hv, Checked.bind] at h
    by_cases hk : k < 0
    · rw [if_pos hk] at h
      cases h
    · rw [if_neg hk] at h
      cases h
      exact if_neg hk

def limit (key : String) (get : ρ → Option Int) : RecordField ρ :=
  ⟨key, Int, Predicates.asCommentLimit, .int, get, limit_reread⟩

lemma lock_reread (v : Value) (change : LockChange) (_ : ActionSet.asLockChange v = .ok change) :
    change.toValue ≠ .null ∧ ActionSet.asLockChange change.toValue = .ok change := by
  cases change with
  | unlock => exact ⟨nofun, rfl⟩
  | lock reason =>
    refine ⟨nofun, ?_⟩
    cases reason <;> rfl

def lock (key : String) (get : ρ → Option LockChange) : RecordField ρ :=
  ⟨key, LockChange, ActionSet.asLockChange, LockChange.toValue, get, lock_reread⟩

end RecordField

lemma IssueType.lookup_text (t : IssueType) : options.lookup t.text = some t := by cases t <;> rfl

lemma IssueState.lookup_text (s : IssueState) : options.lookup s.text = some s := by cases s <;> rfl

lemma ReviewState.lookup_text (s : ReviewState) : options.lookup s.text = some s := by cases s <;> rfl

namespace Predicates

def recordFields : List (RecordField Predicates) :=
  [.choice IssueType.options IssueType.text IssueType.lookup_text "if_type" type,
    .choice IssueState.options IssueState.text IssueState.lookup_text "if_state" state,
    .duration "if_created" created,
    .duration "if_updated" updated,
    .textsOrNo "if_label" label,
    .textsOrNo "if_no_label" noLabel,
    .text "if_author" author,
    .text "if_not_author" notAuthor,
    .textOrNo "if_assignee" assignee,
    .text "if_not_assigned" notAssigned,
    .limit "if_comments" comments,
    .choice ReviewState.options ReviewState.text ReviewState.lookup_text "if_review" review,
    .text "if_reviewed_by" reviewedBy,
    .choice IssueType.options IssueType.text IssueType.lookup_text "if_linked" linked,
    .choice IssueType.options IssueType.text IssueType.lookup_text "if_no_linked" noLinked]

lemma read_recordFields {m : Mapping} {p : Predicates} (h : ofFields m = .ok p) :
    ∀ f ∈ recordFields, f.read m = .ok (f.get p) := by
  unfold ofFields at h
  -- the last field is split off first
  obtain ⟨_, _, h, hnoLinked, _⟩ := seq_eq_ok h
  obtain ⟨_, _, h, hlinked, _⟩ := seq_eq_ok h
  obtain ⟨_, _, h, hreviewedBy, _⟩ := seq_eq_ok h
  obtain ⟨_, _, h, hreview, _⟩ := seq_eq_ok h
  obtain ⟨_, _, h, hcomments, _⟩ := seq_eq_ok h
  obtain ⟨_, _, h, hnotAssigned, _⟩ := seq_eq_ok h
  obtain ⟨_, _, h, hassignee, _⟩ := seq_eq_ok h
  obtain ⟨_, _, h, hnotAuthor, _⟩ := seq_eq_ok h
  obtain ⟨_, _, h, hauthor, _⟩ := seq_eq_ok h
  obtain ⟨_, _, h, hnoLabel, _⟩ := seq_eq_ok h
  obtain ⟨_, _, h, hlabel, _⟩ := seq_eq_ok h
  obtain ⟨_, _, h, hupdated, _⟩ := seq_eq_ok h
  obtain ⟨_, _, h, hcreated, _⟩ := seq_eq_ok h
  obtain ⟨_, _, h, hstate, _⟩ := seq_eq_ok h
  obtain ⟨_, _, h, htype, _⟩ := seq_eq_ok h
  cases h
  subst_vars
  simp only [recordFields, List.forall_mem_cons]
  exact ⟨htype, hstate, hcreated, hupdated, hlabel, hnoLabel, hauthor, hnotAuthor, hassignee, hnotAssigned,
    hcomments, hreview, hreviewedBy, hlinked, hnoLinked, nofun⟩

lemma ofFields_congr {m m' : Mapping} (h : ∀ f ∈ recordFields, f.read m' = f.read m) :
    ofFields m' = ofFields m := by
  simp only [recordFields, List.forall_mem_cons, RecordField.read, RecordField.choice,
    RecordField.duration, RecordField.textsOrNo, RecordField.text, RecordField.textOrNo,
    RecordField.limit] at h
  simp only [ofFields, h]

def form : Form Predicates where
  fields := recordFields
  read := ofFields
  distinct := by decide
  read_get := read_recordFields
  read_congr := ofFields_congr

lemma describe_form (p : Predicates) : form.describe p = p.toMapping := by
  simp only [toMapping, map_str]
  rfl

lemma check_form (m : Mapping) : form.check m = check m := rfl

end Predicates

namespace ActionSet

def recordFields : List (RecordField ActionSet) :=
  [.texts "remove_labels" removeLabels,
    .texts "add_labels" addLabels,
    .texts "replace_labels" replaceLabels,
    .text "comment" comment,
    .choice IssueState.options IssueState.text IssueState.lookup_text "set_state" setState,
    .lock "set_locked" setLocked,
    .texts "remove_assignees" removeAssignees,
    .texts "add_assignees" addAssignees]

lemma read_recordFields {m : Mapping} {a : ActionSet} (h : ofFields m = .ok a) :
    ∀ f ∈ recordFields, f.read m = .ok (f.get a) := by
  unfold ofFields at h
  obtain ⟨_, _, h, haddAssignees, _⟩ := seq_eq_ok h
  obtain ⟨_, _, h, hremoveAssignees, _⟩ := seq_eq_ok h
  obtain ⟨_, _, h, hsetLocked, _⟩ := seq_eq_ok h
  obtain ⟨_, _, h, hsetState, _⟩ := seq_eq_ok h
  obtain ⟨_, _, h, hcomment, _⟩ := seq_eq_ok h
  obtain ⟨_, _, h, hreplaceLabels, _⟩ := seq_eq_ok h
  obtain ⟨_, _, h, haddLabels, _⟩ := seq_eq_ok h
  obtain ⟨_, _, h, hremoveLabels, _⟩ := seq_eq_ok h
  cases h
  subst_vars
  simp only [recordFields, List.forall_mem_cons]
  exact ⟨hremoveLabels, haddLabels, hreplaceLabels, hcomment, hsetState, hsetLocked, hremoveAssignees,
    haddAssignees, nofun⟩

lemma ofFields_congr {m m' : Mapping} (h : ∀ f ∈ recordFields, f.read m' = f.read m) :
    ofFields m' = ofFields m := by
  simp only [recordFields, List.forall_mem_cons, RecordField.read, RecordField.texts, RecordField.text,
    RecordField.choice, RecordField.lock] at h
  simp only [ofFields, h]

def form : Form ActionSet where
  fields := recordFields
  read := ofFields
  distinct := by decide
  read_get := read_recordFields
  read_congr := ofFields_congr

lemma describe_form (a : ActionSet) : form.describe a = a.toMapping := by
  simp only [toMapping, map_str]
  rfl

lemma check_form (m : Mapping) : form.check m = check m := rfl

end ActionSet

namespace Rule

lemma isPredicateKey_of_mem {key : String} (h : key ∈ Predicates.fields) :
    isPredicateKey (.str (.ofString key)) = true := by
  have hall : ∀ key ∈ Predicates.fields, isPredicateKey (.str (.ofString key)) = true := by decide +kernel
  exact hall key h

lemma isPredicateKey_eq_false {key : String} (h : key ∈ ActionSet.fields) :
    isPredicateKey (.str (.ofString key)) = false := by
  have hall : ∀ key ∈ ActionSet.fields, isPredicateKey (.str (.ofString key)) = false := by decide +kernel
  exact hall key h

variable {m : Mapping}

lemma predicates_of_hasKeysIn (h : HasKeysIn Predicates.fields m) :
    ∀ e ∈ m, isPredicateKey e.1 = true := by
  intro e he
  obtain ⟨key, hkey, heq⟩ := h e he
  rw [heq]
  exact isPredicateKey_of_mem hkey

lemma actions_of_hasKeysIn (h : HasKeysIn ActionSet.fields m) : ∀ e ∈ m, isPredicateKey e.1 = false := by
  intro e he
  obtain ⟨key, hkey, heq⟩ := h e he
  rw [heq]
  exact isPredicateKey_eq_false hkey

end Rule

end Triage
