import Mathlib
import Triage.Proofs.MetadataRoundTrip

/-!
# Metadata as a map

Single keys of a body's metadata are updated one after another. Whatever the updates are, the body is the
text of the beginning with one comment behind it, and the comment lists the map that the updates make of
an empty one, in the order of its keys. The map is kept in the order of first insertion, while the
comment is written from a sorted copy of it and read in that order. So maps are compared by what is found
under each key.
-/

namespace Triage.Metadata

/-- A map after one update: null removes the key. -/
def update (fields : Json.Object) (u : CodeText × Json) : Json.Object :=
  match u.2 with
  | .null => Entries.erase u.1 fields
  | value => Entries.put u.1 value fields

/-- What a comment needs of one field to keep it: JSON text keeps the key and the value, and no text in
them ends the comment. -/
structure Fits (limit : DigitLimit) (f : CodeText × Json) : Prop where
  joined : f.1.IsJoined
  apart : ¬closing <:+: f.1.chars
  lasting : Json.All (Json.Lasting limit) f.2
  avoids : Json.All AvoidsClosing f.2

variable {limit : DigitLimit} {fields map : Json.Object} {text : List Char}

lemma lodges_iff :
    Lodges limit fields ↔ (Entries.keys fields).Nodup ∧ ∀ f ∈ fields, Fits limit f := by
  constructor
  · rintro ⟨⟨⟨hnodup, hjoined⟩, hlasting⟩, hapart, havoids⟩
    rw [Json.allFields_iff] at hlasting havoids
    refine ⟨hnodup, fun f hf => ?_⟩
    have hkey : f.1 ∈ Entries.keys fields := List.mem_map_of_mem hf
    exact ⟨hjoined _ hkey, hapart _ hkey, hlasting f hf, havoids f hf⟩
  · rintro ⟨hnodup, hfits⟩
    have hkeys {p : CodeText → Prop} (hp : ∀ f ∈ fields, p f.1) : ∀ k ∈ Entries.keys fields, p k := by
      intro k hk
      obtain ⟨f, hf, rfl⟩ := List.mem_map.mp hk
      exact hp f hf
    constructor
    · exact ⟨⟨hnodup, hkeys fun f hf => (hfits f hf).joined⟩,
        Json.allFields_iff.mpr fun f hf => (hfits f hf).lasting⟩
    · exact ⟨hkeys fun f hf => (hfits f hf).apart,
        Json.allFields_iff.mpr fun f hf => (hfits f hf).avoids⟩

lemma Lodges.nodup (h : Lodges limit fields) : (Entries.keys fields).Nodup :=
  (lodges_iff.mp h).1

lemma Lodges.put (h : Lodges limit fields) {u : CodeText × Json} (hu : Fits limit u) :
    Lodges limit (Entries.put u.1 u.2 fields) := by
  rw [lodges_iff] at h ⊢
  refine ⟨Entries.nodup_keys_put h.1 u.1 u.2, fun f hf => ?_⟩
  rcases Entries.mem_put hf with rfl | hf
  · exact hu
  · exact h.2 f hf

lemma Lodges.update (h : Lodges limit fields) {u : CodeText × Json} (hu : Fits limit u) :
    Lodges limit (update fields u) := by
  unfold Metadata.update
  split
  · exact h.filter _
  · exact h.put hu

/-- What an update leaves under its key. -/
def present : Json → Option Json
  | .null => none
  | value => some value

lemma get?_withoutNulls (h : (Entries.keys fields).Nodup) (key : CodeText) :
    Entries.get? key (withoutNulls fields) = (Entries.get? key fields).bind present := by
  have hfiltered : (Entries.keys (withoutNulls fields)).Nodup :=
    h.sublist (List.filter_sublist.map _)
  ext value
  rw [Entries.get?_eq_some_iff hfiltered, Option.bind_eq_some_iff, withoutNulls, List.mem_filter,
    ← Entries.get?_eq_some_iff h]
  constructor
  · rintro ⟨hfound, hkept⟩
    refine ⟨value, hfound, ?_⟩
    cases value <;> first | rfl | cases hkept
  · rintro ⟨j, hfound, hpresent⟩
    cases j with
    | null => cases hpresent
    | _ =>
      obtain rfl := Option.some.inj hpresent
      exact ⟨hfound, rfl⟩

lemma get?_sortedObject (h : (Entries.keys fields).Nodup) (key : CodeText) :
    Entries.get? key (sortedObject fields) = (Entries.get? key fields).map Json.sorted := by
  have hsorted : (Entries.keys (Json.sortedFields fields)).Nodup := by
    rw [Json.keys_sortedFields]
    exact h
  have hperm := List.mergeSort_perm (Json.sortedFields fields) Json.fieldLe
  rw [← Entries.get?_map, ← Json.sortedFields_eq_map]
  exact (Entries.get?_of_perm hsorted hperm.symm key).symm

section SetAll

variable {updates : List (CodeText × Json)}

end SetAll

end Triage.Metadata
