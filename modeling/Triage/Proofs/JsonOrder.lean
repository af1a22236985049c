import Mathlib
import Triage.Proofs.JsonRoundTrip

/-!
# Objects up to the order of their fields

Two values are the same when they differ at most in the order in which their objects keep their
fields. Sorting the fields leaves a value the same, and keeps what holds of all its parts as long as
that does not depend on the order either. Objects under whose keys the same values are found come out
equal when they are sorted.
-/

namespace Triage

namespace Json

mutual

/-- Equality of values that does not see the order of the fields of objects. -/
inductive Same : Json → Json → Prop where
  | refl (j : Json) : Same j j
  | arr {a b : List Json} : SameItems a b → Same (.arr a) (.arr b)
  | obj {a b c : List (CodeText × Json)} : a.Perm b → SameFields b c → Same (.obj a) (.obj c)

/-- Equality item by item. -/
inductive SameItems : List Json → List Json → Prop where
  | nil : SameItems [] []
  | cons {i j : Json} {a b : List Json} : Same i j → SameItems a b → SameItems (i :: a) (j :: b)

/-- Equality field by field, under the same keys. -/
inductive SameFields : List (CodeText × Json) → List (CodeText × Json) → Prop where
  | nil : SameFields [] []
  | cons {k : CodeText} {i j : Json} {a b : List (CodeText × Json)} :
      Same i j → SameFields a b → SameFields ((k, i) :: a) ((k, j) :: b)

end

/-- The order of the fields of a sorted object. -/
def fieldLe (a b : CodeText × Json) : Bool := CodeText.le a.1 b.1

lemma sorted_obj (fields : List (CodeText × Json)) :
    sorted (.obj fields) = .obj ((sortedFields fields).mergeSort fieldLe) := by
  rw [sorted]
  rfl

mutual

theorem same_sorted : ∀ j : Json, Same (sorted j) j
  | .null => .refl _
  | .bool _ => .refl _
  | .int _ => .refl _
  | .float _ => .refl _
  | .str _ => .refl _
  | .arr items => .arr (sameItems_sortedItems items)
  | .obj fields => by
    rw [sorted_obj]
    exact .obj (List.mergeSort_perm _ _) (sameFields_sortedFields fields)

theorem sameItems_sortedItems : ∀ js : List Json, SameItems (sortedItems js) js
  | [] => .nil
  | j :: js => .cons (same_sorted j) (sameItems_sortedItems js)

theorem sameFields_sortedFields : ∀ fs : List (CodeText × Json), SameFields (sortedFields fs) fs
  | [] => .nil
  | (_, j) :: fs => .cons (same_sorted j) (sameFields_sortedFields fs)

end

lemma sortedFields_eq_map (fs : List (CodeText × Json)) :
    sortedFields fs = fs.map fun f => (f.1, sorted f.2) := by
  induction fs with
  | nil => rfl
  | cons f fs ih => rw [sortedFields, ih, List.map_cons]

lemma keys_sortedFields (fs : List (CodeText × Json)) :
    Entries.keys (sortedFields fs) = Entries.keys fs := by
  rw [sortedFields_eq_map, Entries.keys_map]

lemma keys_sorted_perm (fs : List (CodeText × Json)) :
    (Entries.keys ((sortedFields fs).mergeSort fieldLe)).Perm (Entries.keys fs) := by
  rw [← keys_sortedFields fs]
  exact (List.mergeSort_perm _ _).map _

lemma allFields_iff {p : Json → Prop} {fs : List (CodeText × Json)} :
    AllFields p fs ↔ ∀ f ∈ fs, All p f.2 := by
  induction fs with
  | nil => simp [AllFields]
  | cons f fs ih => simp [AllFields, ih]

/-- A property of values that only depends on the keys of an object, in any order, and not on the
items of an array. -/
structure OrderFree (p : Json → Prop) : Prop where
  arr : ∀ a b, p (.arr a) → p (.arr b)
  obj : ∀ a b, (Entries.keys b).Subperm (Entries.keys a) → p (.obj a) → p (.obj b)

mutual

theorem all_sorted {p : Json → Prop} (hp : OrderFree p) : ∀ j : Json, All p j → All p (sorted j)
  | .null, h => h
  | .bool _, h => h
  | .int _, h => h
  | .float _, h => h
  | .str _, h => h
  | .arr items, h => ⟨hp.arr _ _ h.1, allItems_sortedItems hp items h.2⟩
  | .obj fields, h => by
    rw [sorted_obj]
    refine ⟨hp.obj _ _ (keys_sorted_perm fields).subperm h.1, allFields_iff.mpr fun f hf => ?_⟩
    have hall := allFields_iff.mp (allFields_sortedFields hp fields h.2)
    exact hall f ((List.mergeSort_perm _ _).mem_iff.mp hf)

theorem allItems_sortedItems {p : Json → Prop} (hp : OrderFree p) :
    ∀ js : List Json, AllItems p js → AllItems p (sortedItems js)
  | [], _ => trivial
  | j :: js, h => ⟨all_sorted hp j h.1, allItems_sortedItems hp js h.2⟩

theorem allFields_sortedFields {p : Json → Prop} (hp : OrderFree p) :
    ∀ fs : List (CodeText × Json), AllFields p fs → AllFields p (sortedFields fs)
  | [], _ => trivial
  | (_, j) :: fs, h => ⟨all_sorted hp j h.1, allFields_sortedFields hp fs h.2⟩

end

mutual

theorem all_of_sorted {p : Json → Prop} (hp : OrderFree p) : ∀ j : Json, All p (sorted j) → All p j
  | .null, h => h
  | .bool _, h => h
  | .int _, h => h
  | .float _, h => h
  | .str _, h => h
  | .arr items, h => ⟨hp.arr _ _ h.1, allItems_of_sortedItems hp items h.2⟩
  | .obj fields, h => by
    rw [sorted_obj] at h
    refine ⟨hp.obj _ _ (keys_sorted_perm fields).symm.subperm h.1, ?_⟩
    refine allFields_of_sortedFields hp fields (allFields_iff.mpr fun f hf => ?_)
    exact allFields_iff.mp h.2 f ((List.mergeSort_perm _ _).mem_iff.mpr hf)

theorem allItems_of_sortedItems {p : Json → Prop} (hp : OrderFree p) :
    ∀ js : List Json, AllItems p (sortedItems js) → AllItems p js
  | [], _ => trivial
  | j :: js, h => ⟨all_of_sorted hp j h.1, allItems_of_sortedItems hp js h.2⟩

theorem allFields_of_sortedFields {p : Json → Prop} (hp : OrderFree p) :
    ∀ fs : List (CodeText × Json), AllFields p (sortedFields fs) → AllFields p fs
  | [], _ => trivial
  | (_, j) :: fs, h => ⟨all_of_sorted hp j h.1, allFields_of_sortedFields hp fs h.2⟩

end

theorem all_filter {p : Json → Prop} (hp : OrderFree p) {fields : List (CodeText × Json)}
    (h : All p (.obj fields)) (keep : CodeText × Json → Bool) : All p (.obj (fields.filter keep)) := by
  refine ⟨hp.obj _ _ (List.filter_sublist.map _).subperm h.1, allFields_iff.mpr fun f hf => ?_⟩
  exact allFields_iff.mp h.2 f (List.mem_filter.mp hf).1

/-- Keys that are distinct and joined stay so when some are left out and the others reordered. -/
lemma joinedKeys_of_subperm {ks ks' : List CodeText} (hsub : ks'.Subperm ks)
    (h : ks.Nodup ∧ ∀ k ∈ ks, k.IsJoined) : ks'.Nodup ∧ ∀ k ∈ ks', k.IsJoined := by
  obtain ⟨l, hperm, hl⟩ := hsub
  refine ⟨hperm.nodup_iff.mp (h.1.sublist hl), fun k hk => h.2 k ?_⟩
  exact hl.subset (hperm.mem_iff.mpr hk)

lemma orderFree_lasting (limit : DigitLimit) : OrderFree (Lasting limit) where
  arr _ _ _ := trivial
  obj _ _ := joinedKeys_of_subperm

lemma orderFree_legible (limit : DigitLimit) : OrderFree (Legible limit) where
  arr _ _ _ := trivial
  obj _ _ := joinedKeys_of_subperm

end Json

namespace CodeText

lemma le_eq_true_iff {a b : CodeText} : le a b = true ↔ a.codes ≤ b.codes := by
  unfold le
  rw [Bool.not_eq_true', decide_eq_false_iff_not]
  exact not_lt

lemma codes_injective : Function.Injective codes := by
  have hcode : Function.Injective CodePoint.code := by
    have hread (p : CodePoint) : CodePoint.ofCode? p.code = some p := by
      cases p with
      | char c => exact Json.ofCode?_toNat c
      | half n => exact Json.ofCode?_half n.isLt
    intro p q h
    have hp := hread p
    rw [h, hread q] at hp
    exact (Option.some.inj hp).symm
  rintro ⟨ps⟩ ⟨qs⟩ h
  exact congrArg mk (List.map_injective_iff.mpr hcode h)

end CodeText

namespace Json

lemma fieldLe_trans (a b c : CodeText × Json) (hab : fieldLe a b = true) (hbc : fieldLe b c = true) :
    fieldLe a c = true := by
  unfold fieldLe at *
  rw [CodeText.le_eq_true_iff] at *
  exact le_trans hab hbc

lemma fieldLe_total (a b : CodeText × Json) : (fieldLe a b || fieldLe b a) = true := by
  unfold fieldLe
  rw [Bool.or_eq_true, CodeText.le_eq_true_iff, CodeText.le_eq_true_iff]
  exact le_total _ _

/-- Two fields that stand in both orders have one key, and an object has each key once. -/
lemma mergeSort_eq_of_perm {a b : List (CodeText × Json)} (hn : (Entries.keys a).Nodup)
    (hp : a.Perm b) : a.mergeSort fieldLe = b.mergeSort fieldLe := by
  have hsorted (l : List (CodeText × Json)) := List.pairwise_mergeSort fieldLe_trans fieldLe_total l
  refine List.Perm.eq_of_pairwise ?_ (hsorted a) (hsorted b)
    ((List.mergeSort_perm a _).trans (hp.trans (List.mergeSort_perm b _).symm))
  intro f g hf hg hfg hgf
  have hfa : f ∈ a := (List.mergeSort_perm a _).mem_iff.mp hf
  have hga : g ∈ a := hp.mem_iff.mpr ((List.mergeSort_perm b _).mem_iff.mp hg)
  have hle := CodeText.le_eq_true_iff.mp hfg
  have hge := CodeText.le_eq_true_iff.mp hgf
  exact List.inj_on_of_nodup_map hn hfa hga (CodeText.codes_injective (le_antisymm hle hge))

lemma sortedFields_eq_self {fs : List (CodeText × Json)} (h : ∀ f ∈ fs, sorted f.2 = f.2) :
    sortedFields fs = fs := by
  induction fs with
  | nil => rfl
  | cons f fs ih =>
    rw [List.forall_mem_cons] at h
    rw [sortedFields, h.1, ih h.2]

mutual

theorem sorted_sorted : ∀ j : Json, sorted (sorted j) = sorted j
  | .null => rfl
  | .bool _ => rfl
  | .int _ => rfl
  | .float _ => rfl
  | .str _ => rfl
  | .arr items => by rw [sorted, sorted, sortedItems_sortedItems items]
  | .obj fields => by
    have hfields : sortedFields ((sortedFields fields).mergeSort fieldLe) =
        (sortedFields fields).mergeSort fieldLe :=
      sortedFields_eq_self fun f hf =>
        sorted_of_mem_sortedFields fields f ((List.mergeSort_perm _ _).mem_iff.mp hf)
    rw [sorted_obj, sorted_obj, hfields,
      List.mergeSort_of_pairwise (List.pairwise_mergeSort fieldLe_trans fieldLe_total _)]

theorem sortedItems_sortedItems : ∀ js : List Json, sortedItems (sortedItems js) = sortedItems js
  | [] => rfl
  | j :: js => by rw [sortedItems, sortedItems, sorted_sorted j, sortedItems_sortedItems js]

theorem sorted_of_mem_sortedFields :
    ∀ (fs : List (CodeText × Json)), ∀ f ∈ sortedFields fs, sorted f.2 = f.2
  | [], _, hf => absurd hf List.not_mem_nil
  | (_, j) :: fs, f, hf => by
    rcases List.mem_cons.mp hf with rfl | hf
    · exact sorted_sorted j
    · exact sorted_of_mem_sortedFields fs f hf

end

end Json

end Triage
