import Mathlib
import Triage.Proofs.CommentText

/-!
# Metadata read back

What is written into a body's metadata is what the body holds afterwards. The text in front of the
new comment has no comment left, and the comment ends where it was closed, so the reader finds
exactly the object that was written.
-/

namespace Triage.Metadata

/-- Objects that a comment keeps: JSON text keeps them, and no text in them ends the comment. -/
structure Storable (limit : DigitLimit) (data : Json.Object) : Prop where
  exact : Json.All (Json.Exact limit) (.obj data)
  avoids : Json.All AvoidsClosing (.obj data)

lemma storable_nil (limit : DigitLimit) : Storable limit [] where
  exact := ⟨⟨List.nodup_nil, fun _ hk => absurd hk List.not_mem_nil⟩, trivial⟩
  avoids := ⟨fun _ hk => absurd hk List.not_mem_nil, trivial⟩

/-- What a comment needs of an object to keep it: halves of characters may stand by themselves. -/
structure Lodges (limit : DigitLimit) (data : Json.Object) : Prop where
  lasting : Json.All (Json.Lasting limit) (.obj data)
  avoids : Json.All AvoidsClosing (.obj data)

lemma Storable.lodges {limit : DigitLimit} {data : Json.Object} (h : Storable limit data) :
    Lodges limit data where
  lasting := Json.All.imp (fun _ => Json.Exact.lasting) _ h.exact
  avoids := h.avoids

/-- What a comment needs of an object to be read back, its numbers with a fraction as such. -/
structure Sealed (limit : DigitLimit) (data : Json.Object) : Prop where
  legible : Json.All (Json.Legible limit) (.obj data)
  avoids : Json.All AvoidsClosing (.obj data)

lemma Lodges.sealed {limit : DigitLimit} {data : Json.Object} (h : Lodges limit data) :
    Sealed limit data where
  legible := Json.All.imp (fun _ => Json.Lasting.legible) _ h.lasting
  avoids := h.avoids

lemma orderFree_avoidsClosing : Json.OrderFree AvoidsClosing where
  arr _ _ _ := trivial
  obj a b hsub h := by
    obtain ⟨l, hperm, hl⟩ := hsub
    exact fun k hk => h k (hl.subset (hperm.mem_iff.mpr hk))

lemma Lodges.filter {limit : DigitLimit} {data : Json.Object} (h : Lodges limit data)
    (keep : CodeText × Json → Bool) : Lodges limit (data.filter keep) where
  lasting := Json.all_filter (Json.orderFree_lasting limit) h.lasting keep
  avoids := Json.all_filter orderFree_avoidsClosing h.avoids keep

lemma Lodges.withoutNulls {limit : DigitLimit} {data : Json.Object} (h : Lodges limit data) :
    Lodges limit (withoutNulls data) :=
  h.filter _

/-- The fields of an object in the order in which a comment lists them. -/
def sortedObject (fields : Json.Object) : Json.Object :=
  (Json.sortedFields fields).mergeSort Json.fieldLe

lemma sortedObject_ne_nil {fields : Json.Object} (h : fields ≠ []) : sortedObject fields ≠ [] := by
  intro hs
  have hlen : (sortedObject fields).length = fields.length := by
    have hkeys := (Json.keys_sorted_perm fields).length_eq
    rwa [Entries.keys, Entries.keys, List.length_map, List.length_map] at hkeys
  rw [hs] at hlen
  exact h (List.length_eq_zero_iff.mp hlen.symm)

lemma all_sortedObject {p : Json → Prop} (hp : Json.OrderFree p) {data : Json.Object}
    (h : Json.All p (.obj data)) : Json.All p (.obj (sortedObject data)) := by
  have hsorted := Json.all_sorted hp _ h
  rwa [Json.sorted_obj] at hsorted

lemma Lodges.sortedObject {limit : DigitLimit} {data : Json.Object} (h : Lodges limit data) :
    Lodges limit (sortedObject data) where
  lasting := all_sortedObject (Json.orderFree_lasting limit) h.lasting
  avoids := all_sortedObject orderFree_avoidsClosing h.avoids

lemma Sealed.sortedObject {limit : DigitLimit} {data : Json.Object} (h : Sealed limit data) :
    Sealed limit (sortedObject data) where
  legible := all_sortedObject (Json.orderFree_legible limit) h.legible
  avoids := all_sortedObject orderFree_avoidsClosing h.avoids

lemma fieldsText_eq_append {fields : Json.Object} (h : fields ≠ []) :
    ∃ inside, Json.fieldsText fields = inside ++ ['\x7d'] := by
  have hrest : ∀ fs : Json.Object, ∃ front, Json.writeFields fs = front ++ ['\x7d'] := by
    intro fs
    induction fs with
    | nil => exact ⟨[], rfl⟩
    | cons f fs ih =>
      obtain ⟨front, hf⟩ := ih
      exact ⟨',' :: ' ' :: (Json.writeString f.1 ++ ':' :: ' ' :: (Json.write f.2 ++ front)), by
        simp [Json.writeFields, hf]⟩
  cases fields with
  | nil => exact absurd rfl h
  | cons f fs =>
    obtain ⟨front, hf⟩ := hrest fs
    exact ⟨Json.writeString f.1 ++ ':' :: ' ' :: (Json.write f.2 ++ front), by
      simp [Json.fieldsText, hf]⟩

lemma opening_eq : opening = "<!-- ladybug = ".toList ++ ['\x7b'] := rfl

lemma closing_eq_append : closing = ['\x7d'] ++ " -->".toList := rfl

lemma comment_eq_append {fields : Json.Object} {inside : List Char}
    (h : Json.write (Json.sorted (.obj fields)) = '\x7b' :: (inside ++ ['\x7d'])) :
    comment fields = opening ++ (inside ++ closing) := by
  have hjoin (a b : List Char) : a ++ '\x7b' :: (inside ++ ['\x7d']) ++ b =
      a ++ ['\x7b'] ++ (inside ++ (['\x7d'] ++ b)) := by simp
  unfold comment
  rw [h, hjoin, ← opening_eq, ← closing_eq_append]

lemma closing_dropLast : closing.dropLast = '\x7d' :: [' ', '-', '-'] := rfl

/-- A comment in its three parts. -/
lemma comment_eq {fields : Json.Object} (hne : fields ≠ []) :
    ∃ inside, comment fields = opening ++ (inside ++ closing) ∧
      '\x7b' :: inside ++ ['\x7d'] = Json.write (.obj (sortedObject fields)) := by
  have hs := sortedObject_ne_nil hne
  obtain ⟨inside, hinside⟩ := fieldsText_eq_append hs
  have hwrite : Json.write (.obj (sortedObject fields)) = '\x7b' :: (inside ++ ['\x7d']) := by
    rw [Json.write_obj hs, hinside]
  have hsorted : Json.sorted (.obj fields) = .obj (sortedObject fields) := Json.sorted_obj fields
  exact ⟨inside, comment_eq_append (hsorted ▸ hwrite), hwrite.symm⟩

/-- The nearest end behind a comment's opening is its own. -/
lemma Sealed.not_isInfix {limit : DigitLimit} {fields : Json.Object} (h : Sealed limit fields)
    {inside : List Char}
    (hwrite : '\x7b' :: inside ++ ['\x7d'] = Json.write (.obj (Metadata.sortedObject fields))) :
    ¬closing <:+: inside ++ closing.dropLast := by
  rw [closing_dropLast]
  intro hi
  have hrest : closing <:+: Json.write (.obj (Metadata.sortedObject fields)) ++ [' ', '-', '-'] := by
    rw [← hwrite, List.cons_append, List.cons_append, List.append_assoc]
    exact List.infix_cons hi
  have hbrace : KeepsBrace [' ', '-', '-'] := fun hc => absurd hc (by decide)
  have hclosing : closing <:+: [' ', '-', '-'] :=
    closing_isInfix_of_write _ h.sortedObject.legible h.sortedObject.avoids hbrace hrest
  exact absurd hclosing (by decide)

lemma withComment_eq {fields : Json.Object} (hne : fields ≠ []) {inside : List Char}
    (hcomment : comment fields = opening ++ (inside ++ closing)) (text : List Char) :
    withComment text fields = text ++ '\n' :: '\n' :: (opening ++ (inside ++ closing)) := by
  rw [withComment, if_neg hne, hcomment]

/-- An opening two lines below a text without one is the first of the whole. -/
lemma cut?_opening {text : List Char} (ht : ¬opening <:+: text) (rest : List Char) :
    Text.cut? opening (text ++ '\n' :: '\n' :: (opening ++ rest)) = some (text ++ ['\n', '\n'], rest) := by
  have hbefore : ¬opening <:+: (text ++ ['\n', '\n']) ++ opening.dropLast := by
    rw [List.append_assoc, List.cons_append, Text.isInfix_append_cons_iff (by decide)]
    rintro (hi | hi)
    · exact ht hi
    · exact absurd hi (by decide)
  have hopening := Text.cut?_append (by decide) hbefore rest
  rwa [List.append_assoc] at hopening

lemma find?_of_cuts {text before rest inside after : List Char}
    (hopening : Text.cut? opening text = some (before, rest))
    (hclosing : Text.cut? closing rest = some (inside, after)) :
    find? text = some ⟨before, inside, after⟩ := by
  simp only [find?, hopening, Option.bind_some, hclosing, Option.map_some]

/-- The comment behind a text without an opening is the first one of the whole. -/
theorem find?_withComment {limit : DigitLimit} {text : List Char} {fields : Json.Object}
    (ht : ¬opening <:+: text) (hne : fields ≠ []) (h : Sealed limit fields) :
    ∃ inside, find? (withComment text fields) = some ⟨text ++ ['\n', '\n'], inside, []⟩ ∧
      '\x7b' :: inside ++ ['\x7d'] = Json.write (.obj (sortedObject fields)) := by
  obtain ⟨inside, hcomment, hwrite⟩ := comment_eq hne
  refine ⟨inside, ?_, hwrite⟩
  have hclosing := Text.cut?_append (l := closing) (by decide) (h.not_isInfix hwrite) []
  rw [List.append_nil] at hclosing
  rw [withComment_eq hne hcomment]
  exact find?_of_cuts (cut?_opening ht _) hclosing

lemma find?_eq_none {text : List Char} (ht : ¬opening <:+: text) : find? text = none := by
  rw [find?, (Text.cut?_eq_none_iff (by decide)).mpr ht]
  rfl

/-- The comment behind a text without an opening is read back, its fields in the order of their
keys. -/
theorem Sealed.readChars {limit : DigitLimit} {text : List Char} {fields : Json.Object}
    (h : Sealed limit fields) (ht : ¬opening <:+: text) :
    Metadata.readChars limit (withComment text fields) =
      .ok (Json.rereadFields (Metadata.sortedObject fields)) := by
  by_cases hne : fields = []
  · subst hne
    rw [withComment, if_pos rfl, Metadata.readChars, find?_eq_none ht]
    simp [Metadata.sortedObject, Json.sortedFields, Json.rereadFields]
  · obtain ⟨inside, hfind, hwrite⟩ := find?_withComment ht hne h
    have hread := Json.readChars_write_reread h.sortedObject.legible
    rw [Json.reread] at hread
    rw [Metadata.readChars, hfind]
    simp only [hwrite, hread]

theorem readChars_withComment {limit : DigitLimit} {text : List Char} {fields : Json.Object}
    (ht : ¬opening <:+: text) (h : Lodges limit fields) :
    readChars limit (withComment text fields) = .ok (sortedObject fields) := by
  have hsame := Json.reread_of_lasting _ h.sortedObject.lasting
  rw [Json.reread, Json.obj.injEq] at hsame
  rw [h.sealed.readChars ht, hsame]

lemma stripFrom_of_find?_eq_none {text : List Char} (h : find? text = none) (fuel : Nat) :
    stripFrom fuel text = text := by
  cases fuel with
  | zero => rfl
  | succ fuel => simp only [stripFrom, h]

lemma strip_of_notInfix {text : List Char} (ht : ¬opening <:+: text) : strip text = text :=
  stripFrom_of_find?_eq_none (find?_eq_none ht) _

lemma dropTrailingNewlines_append (text : List Char) :
    dropTrailingNewlines (text ++ ['\n', '\n']) = dropTrailingNewlines text := by
  simp [dropTrailingNewlines]

/-- Stripping takes the comment off again, with the line feeds in front of it. -/
theorem strip_withComment {limit : DigitLimit} {text : List Char} {fields : Json.Object}
    (ht : ¬opening <:+: text) (hne : fields ≠ []) (h : Lodges limit fields) :
    strip (withComment text fields) = dropTrailingNewlines text := by
  obtain ⟨inside, hfind, -⟩ := find?_withComment ht hne h.sealed
  obtain ⟨fuel, hfuel⟩ : ∃ fuel, (withComment text fields).length = fuel + 1 := by
    refine Nat.exists_eq_succ_of_ne_zero ?_
    simp [withComment, hne]
  have hnil : find? [] = none := rfl
  simp only [strip, hfuel, stripFrom, hfind, stripFrom_of_find?_eq_none hnil, List.append_nil,
    dropTrailingNewlines_append]

mutual

theorem numberFault?_of_legible {limit : DigitLimit} :
    ∀ j : Json, Json.All (Json.Legible limit) j → j.numberFault? limit = none
  | .null, _ => rfl
  | .bool _, _ => rfl
  | .float _, _ => rfl
  | .str _, _ => rfl
  | .int _, h => DigitLimit.numberFault?_eq_none h
  | .arr items, h => itemFault?_of_legible items h.2
  | .obj fields, h => fieldFault?_of_legible fields h.2

theorem itemFault?_of_legible {limit : DigitLimit} :
    ∀ js : List Json, Json.AllItems (Json.Legible limit) js → Json.itemFault? limit js = none
  | [], _ => rfl
  | j :: js, h => by
    rw [Json.itemFault?, numberFault?_of_legible j h.1, itemFault?_of_legible js h.2]
    rfl

theorem fieldFault?_of_legible {limit : DigitLimit} :
    ∀ fs : Json.Object, Json.AllFields (Json.Legible limit) fs → Json.fieldFault? limit fs = none
  | [], _ => rfl
  | (_, j) :: fs, h => by
    rw [Json.fieldFault?, numberFault?_of_legible j h.1, fieldFault?_of_legible fs h.2]
    rfl

end

lemma Lodges.write {limit : DigitLimit} {data : Json.Object} (h : Lodges limit data)
    (body : Option String) : Metadata.write limit body data = .ok (replaced body data) := by
  rw [Metadata.write, numberFault?_of_legible _ h.sealed.legible]

/-- A body that is a text without an opening, with a comment for the fields behind it. -/
structure Carries (body : Option String) (text : List Char) (fields : Json.Object) : Prop where
  shape : (body.getD "").toList = withComment text fields
  clean : ¬opening <:+: text

lemma carries_of_clean {body : Option String} (h : ¬opening <:+: (body.getD "").toList) :
    Carries body (body.getD "").toList [] := ⟨rfl, h⟩

lemma Carries.read {limit : DigitLimit} {body : Option String} {text : List Char}
    {fields : Json.Object} (h : Carries body text fields) (hf : Lodges limit fields) :
    Metadata.read limit body = .ok (Metadata.sortedObject fields) := by
  rw [Metadata.read, h.shape]
  exact readChars_withComment h.clean hf

lemma dropTrailingNewlines_isPrefix (text : List Char) : dropTrailingNewlines text <+: text := by
  have hsuffix : text.reverse.dropWhile (· = '\n') <:+ text.reverse := List.dropWhile_suffix _
  rw [← List.reverse_prefix, List.reverse_reverse] at hsuffix
  exact hsuffix

lemma dropTrailingNewlines_idem (text : List Char) :
    dropTrailingNewlines (dropTrailingNewlines text) = dropTrailingNewlines text := by
  unfold dropTrailingNewlines
  rw [List.reverse_reverse, List.dropWhile_idempotent]

lemma Carries.strip {limit : DigitLimit} {body : Option String} {text : List Char}
    {fields : Json.Object} (h : Carries body text fields) (hf : Lodges limit fields) :
    ¬opening <:+: Metadata.strip (body.getD "").toList ∧
      dropTrailingNewlines (Metadata.strip (body.getD "").toList) = dropTrailingNewlines text := by
  rw [h.shape]
  by_cases hne : fields = []
  · rw [withComment, if_pos hne, strip_of_notInfix h.clean]
    exact ⟨h.clean, rfl⟩
  · rw [strip_withComment h.clean hne hf]
    refine ⟨fun hi => h.clean ?_, dropTrailingNewlines_idem text⟩
    exact hi.trans (dropTrailingNewlines_isPrefix text).isInfix

theorem Carries.set {limit : DigitLimit} {body : Option String} {text : List Char}
    {fields : Json.Object} (h : Carries body text fields) (hf : Lodges limit fields) {key : CodeText}
    {value : Json} (hnew : Lodges limit (Entries.put key value (Metadata.sortedObject fields))) :
    ∃ body', Metadata.set limit body key value = .ok body' ∧
      Carries (some body') (Metadata.strip (body.getD "").toList)
        (Metadata.withoutNulls (Entries.put key value (Metadata.sortedObject fields))) := by
  refine ⟨replaced body (Entries.put key value (Metadata.sortedObject fields)), ?_, ?_, ?_⟩
  · rw [Metadata.set, h.read hf]
    exact hnew.write body
  · rw [replaced, Option.getD_some, String.toList_ofList]
  · exact (h.strip hf).1

end Triage.Metadata
