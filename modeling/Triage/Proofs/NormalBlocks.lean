import Mathlib
import Triage.Proofs.RuleFaults

/-!
# Blocks in normal form

Reading a block brings it into a normal form: what was read, described as a block again, is read as the same.
The keys of a block that is read are all names of fields, so none is passed over, and their order does not
matter. A block without predicates is a mark as well as a task.
-/

namespace Triage

open Checked Value Value.Mapping

/-- A block is a mapping, or null when it is empty. -/
def Value.IsBlock : Value → Prop
  | .null => True
  | .map _ => True
  | _ => False

lemma BlockKind.fields_cases (kind : BlockKind) (name : String) (raw : Value) :
    (raw.IsBlock ∧ kind.fields name raw = .ok raw.entries) ∨
      (¬raw.IsBlock ∧ kind.fields name raw = .error (.configuration (.blockNotMapping kind name))) := by
  cases raw with
  | null => exact .inl ⟨trivial, rfl⟩
  | map m => exact .inl ⟨trivial, rfl⟩
  | _ => exact .inr ⟨id, rfl⟩

lemma Checked.forBlock_eq_ok_iff {α : Type} {kind : BlockKind} {name : String} {c : Checked α} {a : α} :
    c.forBlock kind name = .ok a ↔ c = .ok a := by
  rw [forBlock]
  rcases orFail_cases c (fun fs => .configuration (.badBlock kind name fs)) with
    ⟨b, rfl, hrun⟩ | ⟨hexceeds, days, hrun⟩ | ⟨-, fs, rfl, hrun⟩
  · rw [hrun, Except.ok.injEq, Checked.ok.injEq]
  · have hnot : c ≠ .ok a := by
      rintro rfl
      exact exceeds_ok a hexceeds
    simp [hrun, hnot]
  · simp [hrun]

theorem ActionSet.parse_eq_ok_iff {name : String} {raw : Value} {a : ActionSet} :
    ActionSet.parse name raw = .ok a ↔ raw.IsBlock ∧ form.check raw.entries = .ok a := by
  rcases BlockKind.mark.fields_cases name raw with ⟨hblock, hfields⟩ | ⟨hblock, hfields⟩
  · rw [ActionSet.parse, hfields, Except.bind, forBlock_eq_ok_iff, and_iff_right hblock, check_form]
  · simp [ActionSet.parse, hfields, hblock, Except.bind]

namespace Rule

/-- The fields of a block that are actions. -/
def effects (fields : Mapping) : Mapping := fields.filter fun e => !isPredicateKey e.1

/-- The predicates and actions that are there, as one block. -/
def toMapping (rule : Rule) : Mapping := rule.predicates.toMapping ++ rule.actions.toMapping

variable {name : String} {raw : Value} {m : Mapping} {rule : Rule}

lemma conditions_eq_self (h : ∀ e ∈ m, isPredicateKey e.1 = true) : conditions m = m :=
  List.filter_eq_self.mpr h

lemma conditions_eq_nil (h : ∀ e ∈ m, isPredicateKey e.1 = false) : conditions m = [] :=
  List.filter_eq_nil_iff.mpr fun e he => Bool.eq_false_iff.mp (h e he)

lemma effects_eq_self (h : ∀ e ∈ m, isPredicateKey e.1 = false) : effects m = m :=
  List.filter_eq_self.mpr fun e he => congrArg not (h e he)

lemma effects_eq_nil (h : ∀ e ∈ m, isPredicateKey e.1 = true) : effects m = [] :=
  List.filter_eq_nil_iff.mpr fun e he => Bool.eq_false_iff.mp (congrArg not (h e he))

lemma isPredicateKey_of_mem_toMapping (p : Predicates) : ∀ e ∈ p.toMapping, isPredicateKey e.1 = true := by
  rw [← Predicates.describe_form]
  exact predicates_of_hasKeysIn (Predicates.form.hasKeysIn_describe p)

lemma not_isPredicateKey_of_mem_toMapping (a : ActionSet) :
    ∀ e ∈ a.toMapping, isPredicateKey e.1 = false := by
  rw [← ActionSet.describe_form]
  exact actions_of_hasKeysIn (ActionSet.form.hasKeysIn_describe a)

lemma conditions_toMapping (rule : Rule) : conditions rule.toMapping = rule.predicates.toMapping := by
  calc conditions rule.toMapping
      = conditions rule.predicates.toMapping ++ conditions rule.actions.toMapping := List.filter_append ..
    _ = rule.predicates.toMapping := by
      rw [conditions_eq_self (isPredicateKey_of_mem_toMapping _),
        conditions_eq_nil (not_isPredicateKey_of_mem_toMapping _), List.append_nil]

lemma effects_toMapping (rule : Rule) : effects rule.toMapping = rule.actions.toMapping := by
  calc effects rule.toMapping
      = effects rule.predicates.toMapping ++ effects rule.actions.toMapping := List.filter_append ..
    _ = rule.actions.toMapping := by
      rw [effects_eq_nil (isPredicateKey_of_mem_toMapping _),
        effects_eq_self (not_isPredicateKey_of_mem_toMapping _), List.nil_append]

lemma hasKeysIn_of_checks {p : Predicates} {a : ActionSet}
    (hpredicates : Predicates.form.check (conditions m) = .ok p)
    (hactions : ActionSet.form.check (effects m) = .ok a) :
    HasKeysIn (Predicates.fields ++ ActionSet.fields) m := by
  intro e he
  by_cases hkey : isPredicateKey e.1 = true
  · obtain ⟨key, hmem, heq⟩ :=
      (Predicates.form.check_eq_ok_iff.mp hpredicates).1 e (List.mem_filter.mpr ⟨he, hkey⟩)
    exact ⟨key, List.mem_append_left _ hmem, heq⟩
  · have hnot : (!isPredicateKey e.1) = true := congrArg not (Bool.eq_false_iff.mpr hkey)
    obtain ⟨key, hmem, heq⟩ :=
      (ActionSet.form.check_eq_ok_iff.mp hactions).1 e (List.mem_filter.mpr ⟨he, hnot⟩)
    exact ⟨key, List.mem_append_right _ hmem, heq⟩

lemma writable_of_hasKeysIn {known : List String} (h : HasKeysIn known m) : writable m = .ok m := by
  rcases writable_cases m with ⟨hw, -⟩ | ⟨e, he, fault, hfault, -⟩
  · exact hw
  · obtain ⟨key, -, heq⟩ := h e he
    rw [heq] at hfault
    cases hfault

lemma checkFields_eq_ok_iff : checkFields name m = .ok rule ↔
    rule.name = name ∧ Predicates.form.check (conditions m) = .ok rule.predicates ∧
      ActionSet.form.check (effects m) = .ok rule.actions := by
  obtain ⟨ruleName, p, a⟩ := rule
  rw [checkFields, Predicates.check_form, ActionSet.check_form, effects]
  cases Predicates.check (conditions m) with
  | faulty fs => simp [Checked.bind]
  | ok p' =>
    rw [Checked.bind]
    cases ActionSet.check (m.filter fun e => !isPredicateKey e.1) with
    | faulty fs => simp [Checked.map]
    | ok a' => simp [Checked.map, eq_comm]

theorem parse_eq_ok_iff : parse name raw = .ok rule ↔
    raw.IsBlock ∧ rule.name = name ∧ Predicates.form.check (conditions raw.entries) = .ok rule.predicates ∧
      ActionSet.form.check (effects raw.entries) = .ok rule.actions := by
  rw [← checkFields_eq_ok_iff]
  rcases BlockKind.task.fields_cases name raw with ⟨hblock, hfields⟩ | ⟨hblock, hfields⟩
  · rw [and_iff_right hblock]
    rcases writable_cases raw.entries with ⟨hw, -⟩ | ⟨e, he, fault, hfault, hw⟩
    · rw [parse_eq hfields hw, forBlock_eq_ok_iff]
    · -- a key that cannot be written out is no field
      have hnot : checkFields name raw.entries ≠ .ok rule := by
        intro hcheck
        obtain ⟨-, hpredicates, hactions⟩ := checkFields_eq_ok_iff.mp hcheck
        have hkeys := hasKeysIn_of_checks hpredicates hactions
        rw [writable_of_hasKeysIn hkeys] at hw
        cases hw
      simp [parse, hfields, Except.bind, hw, hnot]
  · simp [parse, hfields, hblock, Except.bind]

end Rule

/-- What it takes for a reading of a block to be a normal form. What was read is described by a block that is
read as the same; the description gives a value under the same keys as the first block, which are all known;
and the first block is read as the same with its keys in any other order. -/
structure IsNormal {ρ : Type} (known : List String) (read : Value → Except Failure ρ)
    (describe : ρ → Mapping) (raw : Value) (r : ρ) : Prop where
  again : read (.map (describe r)) = .ok r
  known : HasKeysIn known raw.entries
  kept : ∀ key, Gives key (describe r) ↔ Gives key raw.entries
  reordered : HasDistinctKeys raw.entries → ∀ m, m.Perm raw.entries → read (.map m) = .ok r

theorem ActionSet.isNormal_of_parse {name : String} {raw : Value} {a : ActionSet}
    (h : ActionSet.parse name raw = .ok a) :
    IsNormal ActionSet.fields (ActionSet.parse name) toMapping raw a := by
  obtain ⟨-, hcheck⟩ := parse_eq_ok_iff.mp h
  constructor
  · rw [← describe_form]
    exact parse_eq_ok_iff.mpr ⟨trivial, form.check_describe hcheck⟩
  · exact (form.check_eq_ok_iff.mp hcheck).1
  · rw [← describe_form]
    exact form.gives_describe hcheck
  · intro hdistinct m hp
    exact parse_eq_ok_iff.mpr ⟨trivial, form.check_of_perm hcheck hdistinct hp⟩

namespace Rule

variable {name : String} {raw : Value} {m : Mapping} {rule : Rule}

/-- A block gives what its predicates and its actions give. -/
lemma gives_iff (key : String) (m : Mapping) :
    Gives key m ↔ Gives key (conditions m) ∨ Gives key (effects m) := by
  rw [conditions, effects, gives_filter, gives_filter fun k => !isPredicateKey k, ← or_and_right]
  cases isPredicateKey (.str (.ofString key)) <;> simp

theorem isNormal_of_parse (h : parse name raw = .ok rule) :
    IsNormal (Predicates.fields ++ ActionSet.fields) (parse name) toMapping raw rule := by
  obtain ⟨-, hname, hpredicates, hactions⟩ := parse_eq_ok_iff.mp h
  constructor
  · rw [parse_eq_ok_iff, entries, conditions_toMapping, effects_toMapping, ← Predicates.describe_form,
      ← ActionSet.describe_form]
    exact ⟨trivial, hname, Predicates.form.check_describe hpredicates, ActionSet.form.check_describe hactions⟩
  · exact hasKeysIn_of_checks hpredicates hactions
  · intro key
    rw [gives_iff, gives_iff key raw.entries, conditions_toMapping, effects_toMapping,
      ← Predicates.describe_form, ← ActionSet.describe_form, Predicates.form.gives_describe hpredicates,
      ActionSet.form.gives_describe hactions]
  · intro hdistinct m hp
    rw [parse_eq_ok_iff]
    exact ⟨trivial, hname,
      Predicates.form.check_of_perm hpredicates (hdistinct.filter _) (hp.filter _),
      ActionSet.form.check_of_perm hactions (hdistinct.filter _) (hp.filter _)⟩

/-- Without predicates a block is a task as well as a mark, with the same actions. -/
lemma parse_mark_iff (h : ∀ e ∈ raw.entries, isPredicateKey e.1 = false) (a : ActionSet) :
    ActionSet.parse name raw = .ok a ↔ ∃ rule, parse name raw = .ok rule ∧ rule.actions = a := by
  have hnone : Predicates.form.check [] = .ok {} := rfl
  simp only [ActionSet.parse_eq_ok_iff, parse_eq_ok_iff, conditions_eq_nil h, effects_eq_self h]
  constructor
  · rintro ⟨hblock, hcheck⟩
    exact ⟨⟨name, {}, a⟩, ⟨hblock, rfl, hnone, hcheck⟩, rfl⟩
  · rintro ⟨rule, ⟨hblock, -, -, hcheck⟩, rfl⟩
    exact ⟨hblock, hcheck⟩

/-- A mark with a predicate is refused. -/
lemma parse_mark_refused (h : ∃ e ∈ raw.entries, isPredicateKey e.1 = true) :
    ∃ fault, ActionSet.parse name raw = .error (.configuration fault) := by
  obtain ⟨e, he, hkey⟩ := h
  rcases BlockKind.mark.fields_cases name raw with ⟨-, hfields⟩ | ⟨-, hfields⟩
  · rw [ActionSet.parse, hfields, Except.bind, forBlock]
    rcases orFail_cases (ActionSet.check raw.entries) (fun fs => .configuration (.badBlock .mark name fs)) with
      ⟨a, hok, -⟩ | ⟨hexceeds, -⟩ | ⟨-, fs, -, hrun⟩
    · have hfalse := actions_of_hasKeysIn (ActionSet.form.check_eq_ok_iff.mp hok).1 e he
      rw [hkey] at hfalse
      cases hfalse
    · exact absurd hexceeds (ActionSet.not_exceeds_check _)
    · exact ⟨_, hrun⟩
  · refine ⟨.blockNotMapping .mark name, ?_⟩
    rw [ActionSet.parse, hfields]
    rfl

/-- To read a task or a mark is to bring it into normal form: the block that describes what was read is read
as the same, every key of the block is the name of a field, with a content unless its value is null, and
the order of the keys does not matter. Tasks without predicates are marks with the same actions, and
nothing with a predicate is a mark. -/
theorem parse_is_normal (name : String) (raw : Value) :
    (∀ rule, parse name raw = .ok rule →
      IsNormal (Predicates.fields ++ ActionSet.fields) (parse name) toMapping raw rule) ∧
    (∀ a, ActionSet.parse name raw = .ok a →
      IsNormal ActionSet.fields (ActionSet.parse name) ActionSet.toMapping raw a) ∧
    ((∀ e ∈ raw.entries, isPredicateKey e.1 = false) →
      ∀ a, ActionSet.parse name raw = .ok a ↔ ∃ rule, parse name raw = .ok rule ∧ rule.actions = a) ∧
    ((∃ e ∈ raw.entries, isPredicateKey e.1 = true) →
      ∃ fault, ActionSet.parse name raw = .error (.configuration fault)) :=
  ⟨fun _ => isNormal_of_parse, fun _ => ActionSet.isNormal_of_parse, parse_mark_iff, parse_mark_refused⟩

/-- A task written loosely: a negative zero to unlock, a bare no, a label by itself, a number as a text and
a field without a value. -/
def looseBlock : Value :=
  .map [(.str "set_locked", .float (.zero true)), (.str "if_label", .bool false), (.str "add_labels", .str "stale"),
    (.str "if_comments", .str " +0_7.0 "), (.str "comment", .null)]

def looseRule : Rule where
  name := "loose"
  predicates := { label := some ["no"], comments := some 7 }
  actions := { setLocked := some .unlock, addLabels := some ["stale"] }

/-- The actions of that task. -/
def looseMark : Value := .map (effects looseBlock.entries)

theorem parse_is_normal_looseBlock :
    parse "loose" looseBlock = .ok looseRule ∧ HasDistinctKeys looseBlock.entries ∧
      parse "loose" (.map looseRule.toMapping) = .ok looseRule ∧
      Gives "if_comments" looseRule.toMapping ∧ ¬Gives "comment" looseRule.toMapping ∧
      parse "loose" (.map looseBlock.entries.reverse) = .ok looseRule ∧
      (∃ e ∈ looseBlock.entries, isPredicateKey e.1 = true) ∧
      (∃ fault, ActionSet.parse "loose" looseBlock = .error (.configuration fault)) ∧
      (∀ e ∈ looseMark.entries, isPredicateKey e.1 = false) ∧
      ActionSet.parse "loose" looseMark = .ok looseRule.actions ∧
      ∃ rule, parse "loose" looseMark = .ok rule ∧ rule.actions = looseRule.actions := by
  have hparse : parse "loose" looseBlock = .ok looseRule := rfl
  have hmark : ActionSet.parse "loose" looseMark = .ok looseRule.actions := rfl
  have hdistinct : HasDistinctKeys looseBlock.entries := by
    unfold HasDistinctKeys
    decide +kernel
  have hpredicate : ∃ e ∈ looseBlock.entries, isPredicateKey e.1 = true :=
    ⟨_, List.mem_cons_of_mem _ List.mem_cons_self, rfl⟩
  have hactions : ∀ e ∈ looseMark.entries, isPredicateKey e.1 = false := by
    intro e he
    simpa using (List.mem_filter.mp he).2
  obtain ⟨htask, -, -, hrefused⟩ := parse_is_normal "loose" looseBlock
  obtain ⟨-, -, hboth, -⟩ := parse_is_normal "loose" looseMark
  have hnormal := htask looseRule hparse
  refine ⟨hparse, hdistinct, hnormal.again, (hnormal.kept _).mpr ⟨_, rfl, nofun⟩, ?_,
    hnormal.reordered hdistinct _ (List.reverse_perm _), hpredicate, hrefused hpredicate, hactions, hmark,
    (hboth hactions _).mp hmark⟩
  rw [hnormal.kept]
  rintro ⟨v, hv, hne⟩
  cases hv
  exact hne rfl

end Rule

end Triage
