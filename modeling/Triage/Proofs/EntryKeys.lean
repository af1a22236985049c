import Mathlib
import Triage.Entries

/-!
# Keys of entries

Putting a value adds its key at the end unless the key is there, so what is put together from pairs has
each key once, and pairs with distinct keys stay as they are. Entries with distinct keys are known up to
their order by what is found under each key.
-/

namespace Triage.Entries

/-- The keys of entries stay when only the values change. -/
lemma keys_map {κ α β : Type} (f : α → β) (es : List (κ × α)) :
    keys (es.map fun e => (e.1, f e.2)) = keys es := List.map_map

variable {κ α : Type} [DecidableEq κ]

lemma get?_map {β : Type} (f : α → β) (key : κ) (es : List (κ × α)) :
    get? key (es.map fun e => (e.1, f e.2)) = (get? key es).map f := by
  induction es with
  | nil => rfl
  | cons e es ih =>
    rw [List.map_cons, get?, get?, ih]
    split_ifs
    · rfl
    · rfl

lemma put_of_notMem {key : κ} {es : List (κ × α)} (h : key ∉ keys es) (v : α) :
    put key v es = es ++ [(key, v)] := by
  induction es with
  | nil => rfl
  | cons e es ih =>
    simp only [keys, List.map_cons, List.mem_cons, not_or] at h
    rw [put, if_neg (Ne.symm h.1), ih h.2]
    rfl

theorem ofPairs_of_nodup {es : List (κ × α)} (h : (keys es).Nodup) : ofPairs es = es := by
  have hgo : ∀ (rest front : List (κ × α)), (keys (front ++ rest)).Nodup →
      rest.foldl (fun acc p => put p.1 p.2 acc) front = front ++ rest := by
    intro rest
    induction rest with
    | nil => intro front _; simp
    | cons e rest ih =>
      intro front hn
      have he : e.1 ∉ keys front := by
        intro hm
        simp only [keys, List.map_append, List.map_cons] at hn hm
        exact (List.nodup_append.mp hn).2.2 _ hm _ (by simp) rfl
      rw [List.foldl_cons, put_of_notMem he, ih (front ++ [e]) (by simpa using hn)]
      simp
  simpa [ofPairs] using hgo es [] (by simpa using h)

lemma keys_put_of_mem {key : κ} {es : List (κ × α)} (h : key ∈ keys es) (v : α) :
    keys (put key v es) = keys es := by
  induction es with
  | nil => exact absurd h List.not_mem_nil
  | cons e es ih =>
    by_cases he : e.1 = key
    · rw [put, if_pos he]
      rfl
    · have hrest : keys (put key v es) = keys es :=
        ih ((List.mem_cons.mp h).resolve_left fun hk => he hk.symm)
      rw [put, if_neg he]
      exact congrArg (e.1 :: ·) hrest

lemma nodup_keys_put {es : List (κ × α)} (h : (keys es).Nodup) (key : κ) (v : α) :
    (keys (put key v es)).Nodup := by
  by_cases hm : key ∈ keys es
  · rw [keys_put_of_mem hm]
    exact h
  · have hkeys : keys (es ++ [(key, v)]) = keys es ++ [key] := List.map_append
    rw [put_of_notMem hm, hkeys, ← List.concat_eq_append, List.nodup_concat]
    exact ⟨hm, h⟩

lemma nodup_keys_ofPairs (pairs : List (κ × α)) : (keys (ofPairs pairs)).Nodup := by
  have hgo : ∀ (rest es : List (κ × α)), (keys es).Nodup →
      (keys (rest.foldl (fun es p => put p.1 p.2 es) es)).Nodup := by
    intro rest
    induction rest with
    | nil => exact fun _ h => h
    | cons p rest ih => exact fun es h => ih _ (nodup_keys_put h p.1 p.2)
  exact hgo pairs [] List.nodup_nil

/-- The keys of entries put together from pairs are those of the pairs, each at its first place. -/
lemma keys_ofPairs (pairs : List (κ × α)) : keys (ofPairs pairs) = (pairs.map Prod.fst).eraseDups := by
  induction pairs using List.reverseRecOn with
  | nil => rfl
  | append_singleton pairs p ih =>
    have hlast : ofPairs (pairs ++ [p]) = put p.1 p.2 (ofPairs pairs) := List.foldl_concat ..
    rw [hlast, List.map_append, List.eraseDups_append, ← ih]
    by_cases hm : p.1 ∈ keys (ofPairs pairs)
    · have hdrop : p.1 ∈ pairs.map Prod.fst := by rwa [ih, List.mem_eraseDups] at hm
      rw [keys_put_of_mem hm]
      simp [List.removeAll, hdrop]
    · have hkeep : p.1 ∉ pairs.map Prod.fst := by rwa [ih, List.mem_eraseDups] at hm
      have hremoved : [p.1].removeAll (pairs.map Prod.fst) = [p.1] := by
        simpa [List.removeAll] using hkeep
      have hsingle : [p.1].eraseDups = [p.1] := by simp [List.eraseDups_cons]
      rw [put_of_notMem hm, List.map_singleton, hremoved, hsingle]
      exact List.map_append

lemma ofPairs_eq_nil_iff {pairs : List (κ × α)} : ofPairs pairs = [] ↔ pairs = [] := by
  constructor
  · intro hnil
    have hkeys := keys_ofPairs pairs
    rw [hnil] at hkeys
    apply List.eq_nil_iff_forall_not_mem.mpr
    intro p hp
    have hmem := List.mem_eraseDups.mpr (List.mem_map_of_mem (f := Prod.fst) hp)
    rw [← hkeys] at hmem
    exact List.not_mem_nil hmem
  · rintro rfl
    rfl

lemma mem_put {key : κ} {v : α} {e : κ × α} {es : List (κ × α)} (h : e ∈ put key v es) :
    e = (key, v) ∨ e ∈ es := by
  induction es with
  | nil => exact .inl (List.mem_singleton.mp h)
  | cons e' es ih =>
    by_cases he : e'.1 = key
    · rw [put, if_pos he, he] at h
      exact (List.mem_cons.mp h).imp_right (List.mem_cons_of_mem e')
    · rw [put, if_neg he] at h
      rcases List.mem_cons.mp h with rfl | h
      · exact .inr List.mem_cons_self
      · exact (ih h).imp_right (List.mem_cons_of_mem e')

lemma mem_of_mem_ofPairs {e : κ × α} {pairs : List (κ × α)} (h : e ∈ ofPairs pairs) : e ∈ pairs := by
  induction pairs using List.reverseRecOn with
  | nil => exact h
  | append_singleton pairs p ih =>
    have hlast : ofPairs (pairs ++ [p]) = put p.1 p.2 (ofPairs pairs) := List.foldl_concat ..
    rw [hlast] at h
    rcases mem_put h with rfl | h
    · exact List.mem_append_right _ (List.mem_singleton.mpr rfl)
    · exact List.mem_append_left _ (ih h)

lemma get?_of_mem_keys {key : κ} {es : List (κ × α)} (h : key ∈ keys es) :
    ∃ value, get? key es = some value := by
  induction es with
  | nil => exact absurd h List.not_mem_nil
  | cons e es ih =>
    by_cases he : e.1 = key
    · exact ⟨e.2, if_pos he⟩
    · rw [get?, if_neg he]
      exact ih ((List.mem_cons.mp h).resolve_left fun hk => he hk.symm)

lemma mem_keys_of_get? {key : κ} {value : α} {es : List (κ × α)} (h : get? key es = some value) :
    key ∈ keys es := by
  induction es with
  | nil => cases h
  | cons e es ih =>
    by_cases he : e.1 = key
    · exact List.mem_cons.mpr (.inl he.symm)
    · rw [get?, if_neg he] at h
      exact List.mem_cons_of_mem _ (ih h)

theorem get?_eq_some_iff {key : κ} {value : α} {es : List (κ × α)} (h : (keys es).Nodup) :
    get? key es = some value ↔ (key, value) ∈ es := by
  induction es with
  | nil => simp
  | cons e es ih =>
    rw [keys, List.map_cons, List.nodup_cons] at h
    rw [get?, List.mem_cons]
    by_cases he : e.1 = key
    · have hrest : (key, value) ∉ es := fun hm => h.1 (List.mem_map.mpr ⟨_, hm, he.symm⟩)
      rw [if_pos he, Option.some.injEq, or_iff_left hrest]
      constructor
      · rintro rfl
        rw [← he]
      · intro heq
        rw [← heq]
    · have hne : (key, value) ≠ e := by
        rintro rfl
        exact he rfl
      rw [if_neg he, ih h.2, or_iff_right hne]

/-- When no key has two values among the pairs, every pair is found under its key. -/
theorem get?_ofPairs {pairs : List (κ × α)}
    (hsame : ∀ key v w, (key, v) ∈ pairs → (key, w) ∈ pairs → v = w) {key : κ} {value : α} :
    get? key (ofPairs pairs) = some value ↔ (key, value) ∈ pairs := by
  rw [get?_eq_some_iff (nodup_keys_ofPairs pairs)]
  constructor
  · exact mem_of_mem_ofPairs
  · intro hmem
    have hkey : key ∈ keys (ofPairs pairs) := by
      rw [keys_ofPairs, List.mem_eraseDups]
      exact List.mem_map.mpr ⟨(key, value), hmem, rfl⟩
    obtain ⟨w, hw⟩ := get?_of_mem_keys hkey
    rw [get?_eq_some_iff (nodup_keys_ofPairs pairs)] at hw
    rwa [hsame key value w hmem (mem_of_mem_ofPairs hw)]

lemma get?_of_perm {es es' : List (κ × α)} (h : (keys es).Nodup) (hp : es.Perm es') (key : κ) :
    get? key es = get? key es' := by
  have h' : (keys es').Nodup := (hp.map _).nodup_iff.mp h
  ext value
  rw [get?_eq_some_iff h, get?_eq_some_iff h', hp.mem_iff]

theorem perm_of_get? {es es' : List (κ × α)} (h : (keys es).Nodup) (h' : (keys es').Nodup)
    (hget : ∀ key, get? key es = get? key es') : es.Perm es' := by
  refine (List.perm_ext_iff_of_nodup h.of_map h'.of_map).mpr fun e => ?_
  have he := hget e.1
  rw [← get?_eq_some_iff h, ← get?_eq_some_iff h', he]

end Triage.Entries
