import Mathlib
import Triage.Proofs.JsonTokens
import Triage.Validation

/-!
# Forms of records

A record of optional fields is read from a mapping field by field, each under its key. When all that a field
takes is written as a value that it takes for the same, the description of a record is read as that record.
Of the mapping nothing counts but what it gives under the keys, so the order of its entries does not matter.
-/

namespace Triage

open Checked

namespace Checked

variable {α β : Type}

lemma seq_eq_ok {f : Checked (α → β)} {x : Checked α} {b : β} (h : f <*> x = ok b) :
    ∃ g a, f = ok g ∧ x = ok a ∧ b = g a := by
  cases f with
  | ok g =>
    cases x with
    | ok a =>
      cases h
      exact ⟨g, a, rfl, rfl, rfl⟩
    | faulty gs => cases h
  | faulty fs => cases x <;> cases h

end Checked

namespace CodeText

lemma string?_ofString (s : String) : (ofString s).string? = some s := by
  simp [string?, hasHalf_ofString]

lemma ofString_injective : Function.Injective ofString := by
  intro a b hab
  rw [← string_ofString a, hab, string_ofString]

/-- A text without halves is the text of a string. -/
lemma exists_ofString {t : CodeText} (h : t.hasHalf = false) : ∃ s, t = ofString s := by
  obtain ⟨cs, rfl⟩ := Json.eq_ofList_of_hasHalf h
  exact ⟨String.ofList cs, by rw [ofString, String.toList_ofList]⟩

end CodeText

namespace Value

/-- The entries of a mapping; other values have none. -/
def entries : Value → Mapping
  | .map entries => entries
  | _ => []

namespace Mapping

/-- No two keys are the same, as in every mapping of a document. -/
def HasDistinctKeys (m : Mapping) : Prop := m.Pairwise fun e e' => sameKey e.1 e'.1 = false

/-- Every key is one of the given names. -/
def HasKeysIn (known : List String) (m : Mapping) : Prop := ∀ e ∈ m, ∃ key ∈ known, e.1 = .str (.ofString key)

/-- Whether a mapping gives a value under a key. Null is no value. -/
def Gives (key : String) (m : Mapping) : Prop := ∃ v, entry? key m = some v ∧ v ≠ .null

variable {known : List String} {key : String} {m m' : Mapping}

lemma HasKeysIn.of_perm (h : HasKeysIn known m) (hp : m'.Perm m) : HasKeysIn known m' :=
  fun e he => h e (hp.mem_iff.mp he)

lemma takesKey_iff (e : Value × Value) : (∃ key ∈ known, e.1 = .str (.ofString key)) ↔
    hasBrokenKey [e] = false ∧ strayFault? known e.1 = none := by
  obtain ⟨k, v⟩ := e
  cases k with
  | str k =>
    have hbroken : hasBrokenKey [(.str k, v)] = k.hasHalf := Bool.or_false _
    simp only [str.injEq, strayFault?, ite_eq_left_iff, reduceCtorEq, imp_false, not_not, hbroken]
    constructor
    · rintro ⟨key, hkey, rfl⟩
      exact ⟨CodeText.hasHalf_ofString key, by rwa [CodeText.string_ofString]⟩
    · rintro ⟨hhalf, hkey⟩
      obtain ⟨s, rfl⟩ := CodeText.exists_ofString hhalf
      rw [CodeText.string_ofString] at hkey
      exact ⟨s, hkey, rfl⟩
  | _ => simp [strayFault?]

/-- A mapping raises no complaint about its keys when they are known names. -/
lemma hasKeysIn_iff : HasKeysIn known m ↔ hasBrokenKey m = false ∧ strayFaults known m = [] := by
  have hbroken : hasBrokenKey m = false ↔ ∀ e ∈ m, hasBrokenKey [e] = false := by simp [hasBrokenKey]
  have hstray : strayFaults known m = [] ↔ ∀ e ∈ m, strayFault? known e.1 = none :=
    List.filterMap_eq_nil_iff
  rw [hbroken, hstray, ← forall₂_and]
  exact forall₂_congr fun e _ => takesKey_iff e

/-- What a closed check takes: mappings with known keys only, as the check takes them. -/
lemma closed_eq_ok_iff {α : Type} {check : Mapping → Checked α} {a : α} :
    closed known check m = .ok a ↔ HasKeysIn known m ∧ check m = .ok a := by
  rw [hasKeysIn_iff, and_assoc]
  unfold closed
  cases hasBrokenKey m with
  | true => simp [fail]
  | false =>
    cases check m <;> cases strayFaults known m <;> simp [andAlso]

/-- Where no two keys are one, what is found under a key is what stands with it. -/
lemma entry?_eq_some_iff (h : (m.map Prod.fst).Nodup) {key : CodeText} {v : Value} :
    entry? key m = some v ↔ (.str key, v) ∈ m := by
  induction m with
  | nil => simp [Value.entry?]
  | cons e m ih =>
    rw [List.map_cons, List.nodup_cons] at h
    obtain ⟨k, w⟩ := e
    rw [List.mem_cons]
    by_cases hk : k = .str key
    · subst hk
      have hrest : (.str key, v) ∉ m := fun hm => h.1 (List.mem_map.mpr ⟨_, hm, rfl⟩)
      rw [Value.entry?, if_pos rfl, or_iff_left hrest, Option.some.injEq, Prod.mk.injEq]
      exact ⟨fun hw => ⟨rfl, hw.symm⟩, fun hw => hw.2.symm⟩
    · have hne : (Value.str key, v) ≠ (k, w) := by
        rintro ⟨⟩
        exact hk rfl
      have hskip : entry? key ((k, w) :: m) = entry? key m := by
        cases k with
        | str k => exact if_neg fun hkey => hk (congrArg Value.str hkey)
        | _ => rfl
      rw [hskip, ih h.2, or_iff_right hne]

lemma nodup_keys (hm : HasKeysIn known m) (h : HasDistinctKeys m) : (m.map Prod.fst).Nodup := by
  rw [List.nodup_iff_pairwise_ne, List.pairwise_map]
  apply List.Pairwise.imp_of_mem _ h
  intro e e' he _ hdiff heq
  obtain ⟨key, -, hkey⟩ := hm e he
  rw [← heq, hkey, sameKey, beq_self_eq_true] at hdiff
  cases hdiff

lemma entry?_of_perm (h : (m.map Prod.fst).Nodup) (hp : m'.Perm m) (key : CodeText) :
    entry? key m' = entry? key m := by
  have h' : (m'.map Prod.fst).Nodup := (hp.map _).nodup_iff.mpr h
  ext v
  rw [entry?_eq_some_iff h, entry?_eq_some_iff h', hp.mem_iff]

lemma entry?_eq_none (h : HasKeysIn known m) (hkey : key ∉ known) : entry? key m = none := by
  induction m with
  | nil => rfl
  | cons e m ih =>
    obtain ⟨name, hname, heq⟩ := h e List.mem_cons_self
    obtain ⟨k, v⟩ := e
    obtain rfl : k = .str (.ofString name) := heq
    rw [Value.entry?, if_neg, ih fun e he => h e (List.mem_cons_of_mem _ he)]
    intro hsame
    rw [CodeText.ofString_injective hsame] at hname
    exact hkey hname

/-- Entries with keys of one kind are found under the keys of that kind only. -/
lemma entry?_filter (p : Value → Bool) (key : CodeText) (m : Mapping) :
    entry? key (m.filter fun e => p e.1) = if p (.str key) then entry? key m else none := by
  induction m with
  | nil => simp [Value.entry?]
  | cons e m ih =>
    obtain ⟨k, v⟩ := e
    rw [List.filter_cons]
    by_cases hk : k = .str key
    · subst hk
      by_cases hp : p (.str key) = true
      · simp [hp, Value.entry?]
      · simpa [hp] using ih
    · have hskip : ∀ rest, entry? key ((k, v) :: rest) = entry? key rest := by
        intro rest
        cases k with
        | str k => exact if_neg fun hkey => hk (congrArg Value.str hkey)
        | _ => rfl
      rw [hskip, ← ih]
      split_ifs
      · exact hskip _
      · rfl

lemma gives_filter (p : Value → Bool) :
    Gives key (m.filter fun e => p e.1) ↔ p (.str (.ofString key)) = true ∧ Gives key m := by
  unfold Gives
  rw [entry?_filter]
  split_ifs with hp <;> simp [hp]

lemma hasKeysIn_ofFields (fields : List (String × Option Value)) :
    HasKeysIn (fields.map Prod.fst) (ofFields fields) := by
  intro e he
  obtain ⟨f, hf, hsome⟩ := List.mem_filterMap.mp he
  obtain ⟨v, -, rfl⟩ := Option.map_eq_some_iff.mp hsome
  exact ⟨f.1, List.mem_map_of_mem hf, rfl⟩

lemma entry?_ofFields {fields : List (String × Option Value)} (h : (fields.map Prod.fst).Nodup)
    {v : Option Value} (hmem : (key, v) ∈ fields) : entry? key (ofFields fields) = v := by
  induction fields with
  | nil => cases hmem
  | cons f fields ih =>
    rw [List.map_cons, List.nodup_cons] at h
    obtain ⟨k, w⟩ := f
    rcases List.mem_cons.mp hmem with heq | hrest
    · obtain ⟨rfl, rfl⟩ := Prod.mk.inj heq
      cases v with
      | none => exact entry?_eq_none (hasKeysIn_ofFields fields) h.1
      | some v => exact if_pos rfl
    · have hne : k ≠ key := by
        rintro rfl
        exact h.1 (List.mem_map.mpr ⟨_, hrest, rfl⟩)
      cases w with
      | none => exact ih h.2 hrest
      | some w => exact (if_neg fun hkey => hne (CodeText.ofString_injective hkey)).trans (ih h.2 hrest)

end Mapping

end Value

open Value Value.Mapping

/-- An optional field of a record: its key, the check of its value, and how a content is written and found
in the record. What is written is taken for the content that it shows. -/
structure RecordField (ρ : Type) where
  key : String
  Content : Type
  check : Value → Checked Content
  write : Content → Value
  get : ρ → Option Content
  reread : ∀ v a, check v = .ok a → write a ≠ .null ∧ check (write a) = .ok a

lemma Value.optional_of_ne_null {α : Type} {check : Value → Checked α} {v : Value} (hv : v ≠ .null) :
    Value.optional check v = (check v).map some := by
  cases v with
  | null => exact absurd rfl hv
  | _ => rfl

namespace RecordField

variable {ρ : Type} (f : RecordField ρ) {m m' : Mapping} {a : Option f.Content}

def read (m : Mapping) : Checked (Option f.Content) := fieldOr none f.key (optional f.check) m

/-- The field of a description. -/
def describe (r : ρ) : String × Option Value := (f.key, (f.get r).map f.write)

lemma read_eq_ok_iff : f.read m = .ok a ↔
    (¬Gives f.key m ∧ a = none) ∨
      ∃ v c, entry? f.key m = some v ∧ v ≠ .null ∧ f.check v = .ok c ∧ a = some c := by
  unfold read fieldOr Gives
  cases entry? f.key m with
  | none => simp [eq_comm]
  | some v =>
    by_cases hv : v = .null
    · subst hv
      have hnone : (Value.optional f.check .null).under f.key = .ok none := rfl
      simp [hnone, eq_comm]
    · have hsome : ((Value.optional f.check v).under f.key = .ok a) ↔ ∃ c, f.check v = .ok c ∧ a = some c := by
        rw [optional_of_ne_null hv]
        cases f.check v <;> simp [Checked.map, under, eq_comm]
      simp [hsome, hv]

/-- A field is there when the mapping gives a value for it. -/
lemma gives_iff (h : f.read m = .ok a) : Gives f.key m ↔ a.isSome = true := by
  rcases f.read_eq_ok_iff.mp h with ⟨hnot, rfl⟩ | ⟨v, c, hv, hne, -, rfl⟩
  · exact iff_of_false hnot Bool.false_ne_true
  · exact iff_of_true ⟨v, hv, hne⟩ rfl

/-- What was read of a field is read again where it is written. -/
lemma read_written (h : f.read m = .ok a) (hwritten : entry? f.key m' = a.map f.write) :
    f.read m' = .ok a := by
  rw [read_eq_ok_iff]
  rcases f.read_eq_ok_iff.mp h with ⟨-, rfl⟩ | ⟨v, c, -, -, hc, rfl⟩
  · left
    refine ⟨?_, rfl⟩
    rintro ⟨v, hv, -⟩
    rw [hwritten] at hv
    cases hv
  · right
    obtain ⟨hne, hagain⟩ := f.reread v c hc
    exact ⟨f.write c, c, hwritten, hne, hagain, rfl⟩

lemma check_of_read {c : f.Content} (h : f.read m = .ok (some c)) : ∃ v, f.check v = .ok c := by
  rcases f.read_eq_ok_iff.mp h with ⟨-, hnone⟩ | ⟨v, c', -, -, hc, hsome⟩
  · cases hnone
  · cases hsome
    exact ⟨v, hc⟩

end RecordField

/-- A record of optional fields with distinct keys, which is read field by field. -/
structure Form (ρ : Type) where
  fields : List (RecordField ρ)
  read : Mapping → Checked ρ
  distinct : (fields.map RecordField.key).Nodup
  read_get : ∀ {m r}, read m = .ok r → ∀ f ∈ fields, f.read m = .ok (f.get r)
  read_congr : ∀ {m m'}, (∀ f ∈ fields, f.read m' = f.read m) → read m' = read m

namespace Form

variable {ρ : Type} (F : Form ρ) {f : RecordField ρ} {m m' : Mapping} {r : ρ}

def keys : List String := F.fields.map RecordField.key

/-- The fields that are there, as a mapping. -/
def describe (r : ρ) : Mapping := ofFields (F.fields.map (RecordField.describe · r))

/-- Reads a mapping that holds no other keys. -/
def check (m : Mapping) : Checked ρ := closed F.keys F.read m

lemma keys_describe (r : ρ) : (F.fields.map (RecordField.describe · r)).map Prod.fst = F.keys := List.map_map

lemma hasKeysIn_describe (r : ρ) : HasKeysIn F.keys (F.describe r) := by
  rw [← F.keys_describe r]
  exact hasKeysIn_ofFields _

lemma entry?_describe (hf : f ∈ F.fields) (r : ρ) :
    entry? f.key (F.describe r) = (f.get r).map f.write := by
  apply entry?_ofFields
  · rw [keys_describe]
    exact F.distinct
  · exact List.mem_map_of_mem (f := (RecordField.describe · r)) hf

lemma read_describe (h : F.read m = .ok r) : F.read (F.describe r) = .ok r := by
  rw [← h]
  apply F.read_congr
  intro f hf
  have hread := F.read_get h f hf
  rw [hread, f.read_written hread (F.entry?_describe hf r)]

theorem check_eq_ok_iff : F.check m = .ok r ↔ HasKeysIn F.keys m ∧ F.read m = .ok r := closed_eq_ok_iff

/-- The description of a record that was read is read as that record. -/
theorem check_describe (h : F.check m = .ok r) : F.check (F.describe r) = .ok r := by
  rw [check_eq_ok_iff] at h ⊢
  exact ⟨F.hasKeysIn_describe r, F.read_describe h.2⟩

/-- The record has the fields for which the mapping gives a value. -/
theorem gives_describe (h : F.check m = .ok r) (key : String) : Gives key (F.describe r) ↔ Gives key m := by
  have hread := F.check_eq_ok_iff.mp h
  have hagain := F.check_eq_ok_iff.mp (F.check_describe h)
  by_cases hkey : key ∈ F.keys
  · obtain ⟨f, hf, rfl⟩ := List.mem_map.mp hkey
    rw [f.gives_iff (F.read_get hread.2 f hf), f.gives_iff (F.read_get hagain.2 f hf)]
  · unfold Gives
    rw [entry?_eq_none hread.1 hkey, entry?_eq_none hagain.1 hkey]

/-- The order of the entries does not matter. -/
theorem check_of_perm (h : F.check m = .ok r) (hm : HasDistinctKeys m) (hp : m'.Perm m) :
    F.check m' = .ok r := by
  rw [check_eq_ok_iff] at h ⊢
  refine ⟨h.1.of_perm hp, ?_⟩
  rw [← h.2]
  apply F.read_congr
  intro f _
  rw [RecordField.read, fieldOr, entry?_of_perm (nodup_keys h.1 hm) hp]
  rfl

end Form

end Triage
