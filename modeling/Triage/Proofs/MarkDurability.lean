import Mathlib
import Triage.Proofs.CascadeExactness
import Triage.Proofs.JsonLegible
import Triage.Proofs.JsonNesting
import Triage.Proofs.MetadataUpdates

/-!
# When a mark lasts

What is set in a body's metadata is found there afterwards unless some text gets in the way. Removing the
comments of a body may leave an opening, one that nothing closes or one that the parts around a comment
make. Then the first comment of the new body is another one, or it begins in the body's text and ends in
the new comment. And a text in the metadata may hold the end of a comment, where the new one is cut off.
What is cut off, or has line feeds and an angle bracket in it, is no JSON, because JSON text closes all
that it opens. So either the new comment is found as it was written, or it has no effect on what is found.
-/

namespace Triage.Metadata

/-- What is found under a key of a body's metadata. Nothing is found in what cannot be read. -/
def found? (limit : DigitLimit) (body : Option String) (key : CodeText) : Option Json :=
  match get limit body key with
  | .ok value => value
  | .error _ => none

/-- A body without its comments. -/
def bare (body : Option String) : String := String.ofList (strip (body.getD "").toList)

variable {limit : DigitLimit} {text inside : List Char} {fields stored : Json.Object} {key : CodeText}
  {value : Json}

section Found

lemma found?_of_read (h : readChars limit text = .ok fields) (key : CodeText) :
    found? limit (some (String.ofList text)) key = Entries.get? key fields := by
  simp only [found?, get, read, Option.getD_some, String.toList_ofList, h, Except.map]

lemma found?_of_find?_eq_none (h : find? text = none) (key : CodeText) :
    found? limit (some (String.ofList text)) key = none := by
  have hread : readChars limit text = .ok [] := by
    rw [readChars, h]
  exact found?_of_read hread key

/-- What is found depends on the inside of the first comment alone. -/
lemma found?_congr {a b : List Char} {p q : Place} (ha : find? a = some p) (hb : find? b = some q)
    (h : p.inside = q.inside) (key : CodeText) :
    found? limit (some (String.ofList a)) key = found? limit (some (String.ofList b)) key := by
  have hread : readChars limit a = readChars limit b := by
    simp only [readChars, ha, hb, h]
  simp only [found?, get, read, Option.getD_some, String.toList_ofList, hread]

lemma readChars_of_not_spans {place : Place} (h : find? text = some place)
    (hspans : ¬Json.Spans place.inside) :
    readChars limit text = .ok [] ∨ ∃ fault, readChars limit text = .error fault := by
  have hjson : ∀ j, Json.readChars limit ('\x7b' :: place.inside ++ ['\x7d']) ≠ .ok j :=
    fun j hj => hspans (Json.spans_of_readChars hj)
  rw [readChars, h]
  dsimp only
  split
  · rename_i hj
    exact absurd hj (hjson _)
  · exact .inr ⟨_, rfl⟩
  · exact .inl rfl

lemma found?_of_not_spans {place : Place} (h : find? text = some place)
    (hspans : ¬Json.Spans place.inside) (key : CodeText) :
    found? limit (some (String.ofList text)) key = none := by
  have hshown : readChars limit text = .ok [] ∨ ∃ fault, readChars limit text = .error fault :=
    readChars_of_not_spans h hspans
  rcases hshown with hread | ⟨fault, hread⟩
  · exact found?_of_read hread key
  · simp only [found?, get, read, Option.getD_some, String.toList_ofList, hread, Except.map]

end Found

section Legible

lemma legible_of_read {body : Option String} (h : read limit body = .ok stored) :
    Json.All (Json.Legible limit) (.obj stored) := by
  have hempty : Json.All (Json.Legible limit) (.obj []) :=
    (storable_nil limit).lodges.sealed.legible
  unfold read readChars at h
  split at h
  · obtain rfl := Except.ok.inj h
    exact hempty
  · split at h
    · rename_i hread
      obtain rfl := Except.ok.inj h
      exact Json.legible_of_readChars hread
    · cases h
    · obtain rfl := Except.ok.inj h
      exact hempty

lemma legible_of_found? {body : Option String} (h : found? limit body key = some value) :
    Json.All (Json.Legible limit) value := by
  unfold found? get at h
  cases hread : read limit body with
  | error fault =>
    rw [hread] at h
    cases h
  | ok stored =>
    rw [hread] at h
    have hlegible := legible_of_read hread
    exact Json.allFields_iff.mp hlegible.2 _ ((Entries.get?_eq_some_iff hlegible.1.1).mp h)

lemma legible_put (h : Json.All (Json.Legible limit) (.obj fields)) (hkey : key.IsJoined)
    (hvalue : Json.All (Json.Legible limit) value) :
    Json.All (Json.Legible limit) (.obj (Entries.put key value fields)) := by
  obtain ⟨⟨hnodup, hjoined⟩, hfields⟩ := h
  rw [Json.allFields_iff] at hfields
  refine ⟨⟨Entries.nodup_keys_put hnodup key value, fun k hk => ?_⟩,
    Json.allFields_iff.mpr fun f hf => ?_⟩
  · obtain ⟨f, hf, rfl⟩ := List.mem_map.mp hk
    rcases Entries.mem_put hf with rfl | hf
    · exact hkey
    · exact hjoined _ (List.mem_map_of_mem hf)
  · rcases Entries.mem_put hf with rfl | hf
    · exact hvalue
    · exact hfields f hf

end Legible

section Comment

lemma find?_append {place : Place} (h : find? text = some place) (more : List Char) :
    find? (text ++ more) = some { place with after := place.after ++ more } := by
  obtain ⟨⟨before, rest⟩, hopening, hrest⟩ := Option.bind_eq_some_iff.mp h
  obtain ⟨⟨inside, after⟩, hclosing, rfl⟩ := Option.map_eq_some_iff.mp hrest
  exact find?_of_cuts (Text.cut?_append_right (by decide) hopening more)
    (Text.cut?_append_right (by decide) hclosing more)

/-- An opening that nothing closes takes in the two lines in front of the new comment. -/
lemma find?_append_comment (hopening : opening <:+: text) (h : find? text = none)
    (inside : List Char) :
    ∃ before front tail after, find? (text ++ '\n' :: '\n' :: (opening ++ (inside ++ closing))) =
      some ⟨before, front ++ '\n' :: '<' :: tail, after⟩ := by
  obtain ⟨before, rest, hcut⟩ := Text.exists_cut? (by decide) hopening
  have hrest : ¬closing <:+: rest := by
    rw [find?, hcut] at h
    exact (Text.cut?_eq_none_iff (by decide)).mp (Option.map_eq_none_iff.mp h)
  have hhead : opening = '<' :: opening.tail := rfl
  have hsuffix : closing <:+ opening.tail ++ (inside ++ closing) :=
    (List.suffix_append inside closing).trans (List.suffix_append _ _)
  obtain ⟨tail, after, hend⟩ := Text.exists_cut? (by decide) hsuffix.isInfix
  have hnil : ¬closing <:+: [] := by decide
  have hangle := Text.cut?_append_cons (c := '<') (by decide) (by decide) hnil
    (opening.tail ++ (inside ++ closing))
  have hline := Text.cut?_append_cons (c := '\n') (by decide) (by decide) hnil
    ('<' :: (opening.tail ++ (inside ++ closing)))
  have hlines := Text.cut?_append_cons (c := '\n') (by decide) (by decide) hrest
    ('\n' :: '<' :: (opening.tail ++ (inside ++ closing)))
  rw [List.nil_append, hend, Option.map_some] at hangle
  rw [List.nil_append, hangle, Option.map_some] at hline
  rw [hline, Option.map_some] at hlines
  refine ⟨before, rest ++ ['\n'], tail, after, ?_⟩
  rw [List.append_assoc]
  refine find?_of_cuts (Text.cut?_append_right (by decide) hcut _) ?_
  rw [hhead]
  exact hlines

/-- An end of a comment inside of the new one cuts it off. -/
lemma find?_early (ht : ¬opening <:+: text) (hi : closing <:+: inside ++ closing.dropLast) :
    ∃ before front after, find? (text ++ '\n' :: '\n' :: (opening ++ (inside ++ closing))) =
      some ⟨before, front, after⟩ ∧ front ++ ['\x7d'] <+: inside := by
  obtain ⟨front, after, hcut⟩ :=
    Text.exists_cut? (by decide) (List.suffix_append inside closing).isInfix
  refine ⟨text ++ ['\n', '\n'], front, after, find?_of_cuts (cut?_opening ht _) hcut, ?_⟩
  · have heq : inside ++ closing = front ++ closing ++ after := Text.eq_append_of_cut? hcut
    have hfirst := Text.not_isInfix_of_cut? (by decide) hcut
    have hlen := congrArg List.length heq
    simp only [List.length_append] at hlen
    have hshort : front.length < inside.length := by
      refine lt_of_le_of_ne (by omega) fun hsame => hfirst ?_
      rw [List.append_assoc] at heq
      rwa [← (List.append_inj heq hsame.symm).1]
    have hprefix : front ++ ['\x7d'] <+: inside ++ closing :=
      ⟨[' ', '-', '-', '>'] ++ after, by rw [heq, closing_eq]; simp⟩
    exact List.prefix_of_prefix_length_le hprefix (List.prefix_append _ _) (by simpa using hshort)

lemma spans_inside (h : Json.All (Json.Legible limit) (.obj fields))
    (hwrite : '\x7b' :: inside ++ ['\x7d'] = Json.write (.obj (sortedObject fields))) :
    Json.Spans inside := by
  have hread := Json.readChars_write_reread (all_sortedObject (Json.orderFree_legible limit) h)
  rw [← hwrite] at hread
  exact Json.spans_of_readChars hread

/-- An end of a comment in the texts of the metadata is one inside of the new comment. -/
lemma closing_isInfix_inside (h : Json.All (Json.Legible limit) (.obj fields))
    (hwrite : '\x7b' :: inside ++ ['\x7d'] = Json.write (.obj (sortedObject fields)))
    (hbad : ¬Json.All AvoidsClosing (.obj fields)) : closing <:+: inside ++ closing.dropLast := by
  by_contra hnot
  have hwritten : ¬closing <:+: Json.write (.obj (sortedObject fields)) := by
    rw [← hwrite, List.cons_append]
    intro hclosing
    refine hnot ((closing_isInfix_cons (by decide) hclosing).trans (List.IsPrefix.isInfix ?_))
    exact (List.prefix_append_right_inj inside).mpr ⟨[' ', '-', '-'], rfl⟩
  have hsorted := avoids_of_write _ (all_sortedObject (Json.orderFree_legible limit) h) hwritten
  refine hbad (Json.all_of_sorted orderFree_avoidsClosing _ ?_)
  rwa [Json.sorted_obj]

/-- Where nothing gets in the way, the new comment is found as it was written. -/
theorem found?_sealed (ht : ¬opening <:+: text) (h : Sealed limit fields) (key : CodeText) :
    found? limit (some (String.ofList (withComment text fields))) key =
      (Entries.get? key fields).map fun j => Json.reread (Json.sorted j) := by
  rw [found?_of_read (h.readChars ht), Json.rereadFields_eq_map, Entries.get?_map,
    get?_sortedObject h.legible.1.1,
    Option.map_map]
  rfl

/-- Where something gets in the way, the new comment has no effect. -/
theorem found?_unsealed (h : Json.All (Json.Legible limit) (.obj fields))
    (hbad : opening <:+: text ∨ ¬Json.All AvoidsClosing (.obj fields)) (key : CodeText) :
    found? limit (some (String.ofList (withComment text fields))) key =
      found? limit (some (String.ofList text)) key := by
  by_cases hne : fields = []
  · rw [withComment, if_pos hne]
  obtain ⟨inside, hcomment, hwrite⟩ := comment_eq hne
  rw [withComment_eq hne hcomment]
  -- a comment that is complete in the text stays the first, and an opening alone takes in the line feeds
  by_cases ht : opening <:+: text
  · cases hfind : find? text with
    | some place => exact found?_congr (find?_append hfind _) hfind rfl key
    | none =>
      obtain ⟨before, front, tail, after, hnew⟩ := find?_append_comment ht hfind inside
      rw [found?_of_find?_eq_none hfind, found?_of_not_spans hnew (Json.not_spans_lineFeed front tail)]
  · have hclosing := closing_isInfix_inside h hwrite (hbad.resolve_left ht)
    obtain ⟨before, front, after, hnew, hprefix⟩ := find?_early ht hclosing
    have hcut : ¬Json.Spans front := fun hfront => hfront.not_isPrefix (spans_inside h hwrite) hprefix
    rw [found?_of_find?_eq_none (find?_eq_none ht), found?_of_not_spans hnew hcut]

end Comment

section Set

variable {body : Option String}

/-- Whether nothing in a body and in data gets in the way of a comment for the data. -/
structure Receives (body : Option String) (data : Json.Object) : Prop where
  clean : ¬opening <:+: (bare body).toList
  avoids : Json.All AvoidsClosing (.obj (withoutNulls data))

lemma set_eq_ok {new : String} (h : set limit body key value = .ok new) :
    ∃ stored, read limit body = .ok stored ∧ new = replaced body (Entries.put key value stored) := by
  unfold set at h
  cases hread : read limit body with
  | error fault =>
    rw [hread] at h
    cases h
  | ok stored =>
    rw [hread] at h
    have hwrite : write limit body (Entries.put key value stored) = .ok new := h
    unfold write at hwrite
    split at hwrite
    · cases hwrite
    · exact ⟨stored, rfl, (Except.ok.inj hwrite).symm⟩

lemma set_of_read (h : read limit body = .ok stored) (hkey : key.IsJoined)
    (hvalue : Json.All (Json.Legible limit) value) :
    set limit body key value = .ok (replaced body (Entries.put key value stored)) := by
  have hfault := numberFault?_of_legible _ (legible_put (legible_of_read h) hkey hvalue)
  have hwrite : write limit body (Entries.put key value stored) =
      .ok (replaced body (Entries.put key value stored)) := by
    rw [write, hfault]
  rw [set, h]
  exact hwrite

/-- What is found under a key that was set: the value where the body receives it, and otherwise what the
body without its comments shows. -/
lemma found?_replaced (h : read limit body = .ok stored) (hkey : key.IsJoined)
    (hvalue : Json.All (Json.Legible limit) value) :
    (Receives body (Entries.put key value stored) →
      found? limit (some (replaced body (Entries.put key value stored))) key =
        (present value).map fun j => Json.reread (Json.sorted j)) ∧
    (¬Receives body (Entries.put key value stored) →
      found? limit (some (replaced body (Entries.put key value stored))) key =
        found? limit (some (bare body)) key) := by
  have hput := legible_put (legible_of_read h) hkey hvalue
  have hlegible : Json.All (Json.Legible limit) (.obj (withoutNulls (Entries.put key value stored))) :=
    Json.all_filter (Json.orderFree_legible limit) hput _
  have hbare : (bare body).toList = strip (body.getD "").toList := String.toList_ofList
  constructor
  · intro hreceives
    have hget : Entries.get? key (withoutNulls (Entries.put key value stored)) = present value := by
      rw [get?_withoutNulls hput.1.1, Entries.get?_put, if_pos rfl, Option.bind_some]
    rw [← hget]
    exact found?_sealed (hbare ▸ hreceives.clean) ⟨hlegible, hreceives.avoids⟩ key
  · intro hnot
    refine found?_unsealed hlegible ?_ key
    by_contra hgood
    rw [not_or, not_not] at hgood
    exact hnot ⟨hbare ▸ hgood.1, hgood.2⟩

end Set

end Triage.Metadata

namespace Triage.Duplicate

open Metadata (found? bare Receives)

/-- Whether an issue shows the mark of a duplicate of another one, so that it follows that one alone. -/
structure ShowsMark (limit : DigitLimit) (i : Issue) (n : Int) : Prop where
  found : found? limit i.body metadataKey = some (.int n)
  refers : ∀ m, Cascade.refersTo limit m i = decide (m = n)

/-- Whether an issue shows no mark, so that it follows no other one. -/
structure ShowsNone (limit : DigitLimit) (i : Issue) : Prop where
  found : found? limit i.body metadataKey = none
  refers : ∀ m, Cascade.refersTo limit m i = false

variable {limit : DigitLimit} {i : Issue}

lemma refersTo_eq (m : Int) : Cascade.refersTo limit m i =
    (found? limit i.body metadataKey).any fun value => Json.toInteger limit value = .integer m := by
  unfold Cascade.refersTo found?
  rcases Metadata.get limit i.body metadataKey with _ | _ | _ <;> rfl

lemma showsMark_iff {n : Int} :
    ShowsMark limit i n ↔ found? limit i.body metadataKey = some (.int n) := by
  refine ⟨ShowsMark.found, fun h => ⟨h, fun m => ?_⟩⟩
  rw [refersTo_eq, h, Option.any_some, Json.toInteger]
  simp only [Json.Reading.integer.injEq, eq_comm]

lemma showsNone_iff : ShowsNone limit i ↔ found? limit i.body metadataKey = none := by
  refine ⟨ShowsNone.found, fun h => ⟨h, fun m => ?_⟩⟩
  rw [refersTo_eq, h, Option.any_none]

lemma isJoined_metadataKey : (metadataKey : CodeText).IsJoined :=
  CodeText.isJoined_of_hasHalf (CodeText.hasHalf_ofString metadataKey)

lemma found?_marked_iff (body : Option String) (n : Nat) :
    (∃ marked, Metadata.set limit body metadataKey (.int n) = .ok marked ∧
        found? limit (some marked) metadataKey = some (.int n)) ↔
      limit.admits n = true ∧ ∃ stored, Metadata.read limit body = .ok stored ∧
        (Receives body (Entries.put metadataKey (.int n) stored) ∨
          found? limit (some (bare body)) metadataKey = some (.int n)) := by
  constructor
  · rintro ⟨marked, hset, hfound⟩
    have hn : Json.All (Json.Legible limit) (.int n) := Metadata.legible_of_found? hfound
    obtain ⟨stored, hread, rfl⟩ := Metadata.set_eq_ok hset
    refine ⟨hn, stored, hread, or_iff_not_imp_left.mpr fun hnot => ?_⟩
    rwa [(Metadata.found?_replaced hread isJoined_metadataKey hn).2 hnot] at hfound
  · rintro ⟨hadmits, stored, hread, hcases⟩
    have hn : Json.All (Json.Legible limit) (.int n) := hadmits
    obtain ⟨hsealed, hunsealed⟩ := Metadata.found?_replaced hread isJoined_metadataKey hn
    refine ⟨_, Metadata.set_of_read hread isJoined_metadataKey hn, ?_⟩
    by_cases hr : Receives body (Entries.put metadataKey (.int n) stored)
    · exact hsealed hr
    · rw [hunsealed hr]
      exact hcases.resolve_left hr

lemma found?_bare_of_receives {body : Option String} {data : Json.Object} (h : Receives body data)
    (key : CodeText) : found? limit (some (bare body)) key = none := by
  rw [← String.ofList_toList (s := bare body)]
  exact Metadata.found?_of_find?_eq_none (Metadata.find?_eq_none h.clean) key

lemma found?_cleared_iff (body : Option String) :
    (∃ cleared, Metadata.set limit body metadataKey .null = .ok cleared ∧
        found? limit (some cleared) metadataKey = none) ↔
      (∃ stored, Metadata.read limit body = .ok stored) ∧
        found? limit (some (bare body)) metadataKey = none := by
  have hnull : Json.All (Json.Legible limit) .null := trivial
  constructor
  · rintro ⟨cleared, hset, hfound⟩
    obtain ⟨stored, hread, rfl⟩ := Metadata.set_eq_ok hset
    refine ⟨⟨stored, hread⟩, ?_⟩
    by_cases hr : Receives body (Entries.put metadataKey .null stored)
    · exact found?_bare_of_receives hr _
    · rwa [(Metadata.found?_replaced hread isJoined_metadataKey hnull).2 hr] at hfound
  · rintro ⟨⟨stored, hread⟩, hbare⟩
    obtain ⟨hsealed, hunsealed⟩ := Metadata.found?_replaced hread isJoined_metadataKey hnull
    refine ⟨_, Metadata.set_of_read hread isJoined_metadataKey hnull, ?_⟩
    by_cases hr : Receives body (Entries.put metadataKey .null stored)
    · exact hsealed hr
    · rw [hunsealed hr]
      exact hbare

/-- Marking an issue as a duplicate of issue `n` leaves the mark on it exactly when the metadata can be
read, the number is within the limit, and the body receives the comment with the mark, unless the body
shows the same mark without its comments. Clearing the mark leaves none exactly when the metadata can be
read and the body shows none without its comments. -/
theorem mark_lasts_iff (limit : DigitLimit) (i : Issue) (n : Nat) :
    ((∃ marked, Metadata.set limit i.body metadataKey (.int n) = .ok marked ∧
        ShowsMark limit { i with body := some marked } n) ↔
      limit.admits n = true ∧ ∃ stored, Metadata.read limit i.body = .ok stored ∧
        (Receives i.body (Entries.put metadataKey (.int n) stored) ∨
          ShowsMark limit { i with body := some (bare i.body) } n)) ∧
    ((∃ cleared, Metadata.set limit i.body metadataKey .null = .ok cleared ∧
        ShowsNone limit { i with body := some cleared }) ↔
      (∃ stored, Metadata.read limit i.body = .ok stored) ∧
        ShowsNone limit { i with body := some (bare i.body) }) := by
  simp only [showsMark_iff, showsNone_iff]
  exact ⟨found?_marked_iff i.body n, found?_cleared_iff i.body⟩

/-- An opening that nothing closes, and an opening in front of a comment and the rest of one behind it. -/
def unclosedBody : String := "<!-- ladybug = \x7b"
def joiningBody : String := "<!-- ladybug = <!-- ladybug = \x7b\x7d -->\x7b\"duplicateOf\": 7\x7d -->"

/-- Behind the first body a mark is lost, and clearing the metadata of the second leaves a mark. -/
theorem mark_lost_and_left :
    (∃ marked, Metadata.set .standard (some unclosedBody) metadataKey (.int 5) = .ok marked ∧
      found? .standard (some marked) metadataKey = none) ∧
    ∃ cleared, Metadata.set .standard (some joiningBody) metadataKey .null = .ok cleared ∧
      (found? .standard (some cleared) metadataKey).map (Json.toInteger .standard) =
        some (.integer 7) := by
  refine ⟨⟨"<!-- ladybug = \x7b\n\n<!-- ladybug = \x7b\"duplicateOf\": 5\x7d -->", ?_, ?_⟩,
    ⟨"<!-- ladybug = \x7b\"duplicateOf\": 7\x7d -->", ?_, ?_⟩⟩
  · decide +kernel
  · exact Option.isNone_iff_eq_none.mp (by decide +kernel)
  · decide +kernel
  · decide +kernel

end Triage.Duplicate
