import Mathlib
import Triage.Proofs.MarkDurability
import Triage.Proofs.MarkEffects

/-!
# The author's text under marks

A new mark takes the place of the one before, behind what the author wrote. That text stays, up to line
feeds at its end, as long as nothing in it opens a comment. An opening that nothing closes lets a comment
begin in the text and end in the first mark, and the next mark takes the place of all of it.
-/

namespace Triage.Duplicate

open Metadata (opening closing find? strip replaced dropTrailingNewlines Carries)

/-- Texts that differ by line feeds at their ends only. -/
def SameText (a b : List Char) : Prop := dropTrailingNewlines a = dropTrailingNewlines b

/-- A text in front of the first comment of a body. -/
def StandsBefore (text : List Char) (body : String) : Prop :=
  ∃ place, find? body.toList = some place ∧ SameText place.before text

/-- What precedes the first opening of a text, which is all of a text without one. -/
def unopened (text : List Char) : List Char := ((Text.cut? opening text).map Prod.fst).getD text

/-- What is set for a mark, and for its removal. -/
def markValue : Option Int → Json
  | some n => .int n
  | none => .null

/-- A body is marked, marked again, and cleared. -/
structure Remarking (limit : DigitLimit) (body : Option String) (n m : Int)
    (first second last : String) : Prop where
  marked : Metadata.set limit body metadataKey (markValue (some n)) = .ok first
  remarked : Metadata.set limit (some first) metadataKey (markValue (some m)) = .ok second
  cleared : Metadata.set limit (some second) metadataKey (markValue none) = .ok last

variable {limit : DigitLimit} {body : Option String} {text before rest : List Char} {n m : Int}
  {target : Option Int}

section Texts

lemma sameText_dropTrailingNewlines (text : List Char) : SameText (dropTrailingNewlines text) text :=
  Metadata.dropTrailingNewlines_idem text

lemma sameText_append_lines (text : List Char) : SameText (text ++ ['\n', '\n']) text :=
  Metadata.dropTrailingNewlines_append text

lemma unopened_of_cut? (h : Text.cut? opening text = some (before, rest)) : unopened text = before := by
  rw [unopened, h]
  rfl

lemma unopened_of_not_isInfix (h : ¬opening <:+: text) : unopened text = text := by
  rw [unopened, (Text.cut?_eq_none_iff (by decide)).mpr h]
  rfl

lemma not_isInfix_unopened (text : List Char) : ¬opening <:+: unopened text := by
  by_cases h : opening <:+: text
  · obtain ⟨before, rest, hcut⟩ := Text.exists_cut? (by decide) h
    rw [unopened_of_cut? hcut]
    exact fun hi => Text.not_isInfix_of_cut? (by decide) hcut
      (hi.trans (List.prefix_append before _).isInfix)
  · rwa [unopened_of_not_isInfix h]

/-- What precedes a character other than a line feed is not dropped with the line feeds at the end. -/
lemma isPrefix_dropTrailingNewlines {a b : List Char} {c : Char} (hc : c ∈ b) (hline : c ≠ '\n') :
    a <+: dropTrailingNewlines (a ++ b) := by
  have hstop : (b.reverse.dropWhile (· = '\n')).isEmpty = false := by
    rw [List.isEmpty_eq_false_iff, ne_eq, List.dropWhile_eq_nil_iff]
    exact fun hall => hline (of_decide_eq_true (hall c (List.mem_reverse.mpr hc)))
  rw [dropTrailingNewlines, List.reverse_append, List.dropWhile_append, if_neg (by simp [hstop]),
    List.reverse_append, List.reverse_reverse]
  exact List.prefix_append a _

/-- What precedes the first opening is the whole text only where there is no opening. -/
lemma sameText_unopened_iff : SameText (unopened text) text ↔ ¬opening <:+: text := by
  refine ⟨fun hsame hi => ?_, fun h => congrArg dropTrailingNewlines (unopened_of_not_isInfix h)⟩
  obtain ⟨before, rest, hcut⟩ := Text.exists_cut? (by decide) hi
  have hbrace : '\x7b' ∈ ['\x7b'] ++ rest := by simp
  have hkept : before ++ opening.dropLast <+: dropTrailingNewlines text := by
    have hsplit : text = before ++ opening.dropLast ++ (['\x7b'] ++ rest) := by
      rw [Text.eq_append_of_cut? hcut, Metadata.opening_eq]
      simp
    rw [hsplit]
    exact isPrefix_dropTrailingNewlines hbrace (by decide)
  have hlost := (Metadata.dropTrailingNewlines_isPrefix before).length_le
  rw [unopened_of_cut? hcut] at hsame
  rw [← hsame] at hkept
  have hlong := hkept.length_le
  have hfifteen : opening.dropLast.length = 15 := by decide
  rw [List.length_append, hfifteen] at hlong
  omega

end Texts

section Marks

lemma numberFault?_eq_none_iff (hlimit : limit.admits 0 = true) :
    limit.numberFault? n = none ↔ limit.admits n = true := by
  refine ⟨fun h => ?_, DigitLimit.numberFault?_eq_none⟩
  cases limit with
  | none => rfl
  | some most =>
    have hpos : 0 < most := by
      by_contra hzero
      obtain rfl : most = 0 := by omega
      exact absurd hlimit (by decide)
    have hlt : n.natAbs < 10 ^ most := by
      by_contra hge
      simp [DigitLimit.numberFault?, hge] at h
    have hlen := (Nat.length_toDigits_le_iff (by decide) hpos).mpr hlt
    have hmost : DigitLimit.textFault? (some most) most = none := by simp [DigitLimit.textFault?]
    exact DigitLimit.admits_of_le hmost hlen

/-- Setting a mark on metadata that holds nothing else makes the mark the whole metadata, and fails where
its number has too many digits. -/
lemma set_mark_iff (hlimit : limit.admits 0 = true)
    (hread : Metadata.read limit body = .ok (Metadata.sortedObject (markOf target)))
    (next : Option Int) {new : String} :
    Metadata.set limit body metadataKey (markValue next) = .ok new ↔
      (∀ n ∈ next, limit.admits n = true) ∧
        new = replaced body [(.ofString metadataKey, markValue next)] := by
  have hset : Metadata.set limit body metadataKey (markValue next) =
      Metadata.write limit body [(.ofString metadataKey, markValue next)] := by
    rw [Metadata.set, hread, ← put_markOf target]
    rfl
  have hfault : (Json.obj [(.ofString metadataKey, markValue next)]).numberFault? limit = none ↔
      ∀ n ∈ next, limit.admits n = true := by
    cases next with
    | none => simp [markValue, Json.numberFault?, Json.fieldFault?]
    | some n => simp [markValue, Json.numberFault?, Json.fieldFault?, numberFault?_eq_none_iff hlimit]
  rw [hset, Metadata.write, ← hfault]
  split
  · rename_i hsome
    simp [hsome]
  · rename_i hnone
    simp [hnone, eq_comm]

/-- The new mark stands behind what is left of the body without its comments. -/
lemma carries_replaced (hclean : ¬opening <:+: strip (body.getD "").toList) (next : Option Int) :
    Carries (some (replaced body [(.ofString metadataKey, markValue next)]))
      (strip (body.getD "").toList) (markOf next) := by
  refine ⟨?_, hclean⟩
  rw [replaced, Option.getD_some, String.toList_ofList]
  cases next <;> rfl

lemma standsBefore_of_carries {body : String} (h : Carries (some body) text (markOf (some n)))
    (hn : limit.admits n = true) : StandsBefore text body := by
  have hseal : Metadata.Sealed limit (markOf (some n)) := (lodges_markOf (by simpa using hn)).sealed
  obtain ⟨inside, hfind, -⟩ := Metadata.find?_withComment h.clean (by simp [markOf]) hseal
  have hshape : body.toList = _ := h.shape
  exact ⟨_, hshape ▸ hfind, sameText_append_lines text⟩

/-- A body that later marks keep the text of: without its comments that text is left, and what can be read
of its metadata is a mark or nothing. -/
structure Settled (limit : DigitLimit) (body : String) (text : List Char) : Prop where
  clean : ¬opening <:+: strip body.toList
  same : SameText (strip body.toList) text
  marked : ∀ stored, Metadata.read limit (some body) = .ok stored →
    ∃ target, stored = Metadata.sortedObject (markOf target)

lemma settled_of_carries {body : String} (h : Carries (some body) text (markOf target))
    (htarget : ∀ n ∈ target, limit.admits n = true) : Settled limit body text := by
  have hlodges := lodges_markOf htarget
  obtain ⟨hclean, hsame⟩ := h.strip hlodges
  refine ⟨hclean, hsame, fun stored hread => ⟨target, ?_⟩⟩
  exact Except.ok.inj (hread.symm.trans (h.read hlodges))

/-- One more mark, or the removal of one, leaves the text where it is, up to line feeds. -/
lemma Settled.set (hlimit : limit.admits 0 = true) {body new : String} (h : Settled limit body text)
    {next : Option Int}
    (hset : Metadata.set limit (some body) metadataKey (markValue next) = .ok new) :
    (∀ n ∈ next, limit.admits n = true) ∧
      ∃ text', Carries (some new) text' (markOf next) ∧ SameText text' text := by
  obtain ⟨stored, hread, -⟩ := Metadata.set_eq_ok hset
  obtain ⟨target, rfl⟩ := h.marked stored hread
  obtain ⟨hnext, rfl⟩ := (set_mark_iff hlimit hread next).mp hset
  have hclean : ¬opening <:+: strip ((some body).getD "").toList := h.clean
  exact ⟨hnext, _, carries_replaced hclean next, h.same⟩

lemma Settled.next (hlimit : limit.admits 0 = true) {body new : String} (h : Settled limit body text)
    {next : Option Int}
    (hset : Metadata.set limit (some body) metadataKey (markValue next) = .ok new) :
    Settled limit new text := by
  obtain ⟨hnext, text', hcarries, hsame⟩ := h.set hlimit hset
  obtain ⟨hclean, hleft, hmarked⟩ := settled_of_carries hcarries hnext
  exact ⟨hclean, hleft.trans hsame, hmarked⟩

end Marks

section Opened

/-- An opening that nothing closes begins a comment that ends where the mark behind the text does. -/
lemma find?_opened (hnone : find? text = none) (hcut : Text.cut? opening text = some (before, rest))
    {inside : List Char} (hinside : ¬closing <:+: inside ++ closing.dropLast) :
    find? (text ++ '\n' :: '\n' :: (opening ++ (inside ++ closing))) =
      some ⟨before, rest ++ '\n' :: '\n' :: (opening ++ inside), []⟩ := by
  have hrest : ¬closing <:+: rest := by
    rw [find?, hcut] at hnone
    exact (Text.cut?_eq_none_iff (by decide)).mp (Option.map_eq_none_iff.mp hnone)
  have hempty : ¬closing <:+: [] := by decide
  have hword : ¬closing <:+: "<!-- ladybug = ".toList := by decide
  have hend : ¬closing <:+: rest ++ '\n' :: '\n' :: (opening ++ inside) ++ closing.dropLast := by
    have hline : ¬closing <:+: [] ++ '\n' :: (opening ++ (inside ++ closing.dropLast)) := by
      rw [Text.isInfix_append_cons_iff (by decide), Metadata.opening_eq, List.append_assoc,
        List.singleton_append, Text.isInfix_append_cons_iff (by decide)]
      simp only [hempty, hword, hinside, or_self, not_false_eq_true]
    simp only [List.append_assoc, List.cons_append]
    rw [Text.isInfix_append_cons_iff (by decide), not_or]
    exact ⟨hrest, hline⟩
  have hopening := Text.cut?_append_right (by decide) hcut
    ('\n' :: '\n' :: (opening ++ (inside ++ closing)))
  have hclosing := Text.cut?_append (l := closing) (by decide) hend []
  refine Metadata.find?_of_cuts hopening ?_
  simpa using hclosing

/-- The text in front of the opening is all that is left without the comments. -/
lemma settled_opened {body : String} (hnone : find? text = none) (hopening : opening <:+: text)
    (h : body.toList = Metadata.withComment text (markOf (some n))) :
    Settled limit body (unopened text) := by
  obtain ⟨before, rest, hcut⟩ := Text.exists_cut? (by decide) hopening
  have hne : markOf (some n) ≠ [] := by simp [markOf]
  have hseal : Metadata.Sealed none (markOf (some n)) := (lodges_markOf (by simp)).sealed
  obtain ⟨inside, hcomment, hwrite⟩ := Metadata.comment_eq hne
  have hfind := find?_opened hnone hcut (hseal.not_isInfix hwrite)
  rw [← Metadata.withComment_eq hne hcomment, ← h] at hfind
  have hstrip : strip body.toList = dropTrailingNewlines before := by
    obtain ⟨fuel, hfuel⟩ : ∃ fuel, body.toList.length = fuel + 1 := by
      refine Nat.exists_eq_succ_of_ne_zero ?_
      simp [h, Metadata.withComment, hne]
    have hempty : find? [] = none := rfl
    simp only [strip, hfuel, Metadata.stripFrom, hfind,
      Metadata.stripFrom_of_find?_eq_none hempty, List.append_nil]
  have hbefore := unopened_of_cut? hcut
  refine ⟨?_, ?_, fun stored hread => ⟨none, ?_⟩⟩
  · rw [hstrip, ← hbefore]
    exact fun hi => not_isInfix_unopened text
      (hi.trans (Metadata.dropTrailingNewlines_isPrefix _).isInfix)
  · rw [hstrip, hbefore]
    exact sameText_dropTrailingNewlines before
  · -- the line feeds between the opening and the mark are no JSON
    have hspans : ¬Json.Spans (rest ++ '\n' :: '\n' :: (opening ++ inside)) := by
      have hline := Json.not_spans_lineFeed (rest ++ ['\n']) (opening.tail ++ inside)
      rwa [List.append_assoc] at hline
    have hchars : Metadata.readChars limit body.toList = .ok stored := hread
    have hshown : Metadata.readChars limit body.toList = .ok [] ∨
        ∃ fault, Metadata.readChars limit body.toList = .error fault :=
      Metadata.readChars_of_not_spans hfind hspans
    rw [hchars] at hshown
    rcases hshown with hempty | ⟨fault, hfault⟩
    · obtain rfl := Except.ok.inj hempty
      simp [markOf, Metadata.sortedObject, Json.sortedFields]
    · cases hfault

end Opened

lemma read_of_find?_eq_none (hbody : find? (body.getD "").toList = none) :
    Metadata.read limit body = .ok (Metadata.sortedObject (markOf none)) := by
  rw [Metadata.read, Metadata.readChars, hbody]
  simp [markOf, Metadata.sortedObject, Json.sortedFields]

/-- The first mark on a body without a comment leaves what precedes the first opening to the later ones. -/
lemma settled_marked (hlimit : limit.admits 0 = true) (hbody : find? (body.getD "").toList = none)
    {first : String} (hset : Metadata.set limit body metadataKey (markValue (some n)) = .ok first) :
    limit.admits n = true ∧ Settled limit first (unopened (body.getD "").toList) := by
  obtain ⟨hn, hfirst⟩ := (set_mark_iff hlimit (read_of_find?_eq_none hbody) (some n)).mp hset
  refine ⟨by simpa using hn, ?_⟩
  have hstrip : strip (body.getD "").toList = (body.getD "").toList :=
    Metadata.stripFrom_of_find?_eq_none hbody _
  by_cases hopening : opening <:+: (body.getD "").toList
  · refine settled_opened (n := n) hbody hopening ?_
    rw [hfirst, replaced, String.toList_ofList, hstrip]
    rfl
  · rw [unopened_of_not_isInfix hopening, hfirst]
    have hclean : ¬opening <:+: strip (body.getD "").toList := by rwa [hstrip]
    have hcarries := carries_replaced hclean (some n)
    rw [hstrip] at hcarries
    exact settled_of_carries hcarries hn

/-- A body without an opening takes every mark within the limit, and its removal. -/
lemma exists_remarking (hlimit : limit.admits 0 = true) (hn : limit.admits n = true)
    (hm : limit.admits m = true) (hclean : ¬opening <:+: (body.getD "").toList) :
    ∃ first second last, Remarking limit body n m first second last := by
  have hstart : Carries body (body.getD "").toList (markOf none) := Metadata.carries_of_clean hclean
  have hstep {body : Option String} {text : List Char} {target : Option Int}
      (h : Carries body text (markOf target)) (htarget : ∀ k ∈ target, limit.admits k = true)
      (next : Option Int) (hnext : ∀ k ∈ next, limit.admits k = true) :
      ∃ new, Metadata.set limit body metadataKey (markValue next) = .ok new ∧
        Carries (some new) (strip (body.getD "").toList) (markOf next) := by
    have hlodges := lodges_markOf htarget
    exact ⟨_, (set_mark_iff hlimit (h.read hlodges) next).mpr ⟨hnext, rfl⟩,
      carries_replaced (h.strip hlodges).1 next⟩
  have hn' : ∀ k ∈ some n, limit.admits k = true := by simpa using hn
  have hm' : ∀ k ∈ some m, limit.admits k = true := by simpa using hm
  obtain ⟨first, hmarked, hfirst⟩ := hstep hstart (by simp) (some n) hn'
  obtain ⟨second, hremarked, hsecond⟩ := hstep hfirst hn' (some m) hm'
  obtain ⟨last, hcleared, -⟩ := hstep hsecond hm' none (by simp)
  exact ⟨first, second, last, hmarked, hremarked, hcleared⟩

/-- Whatever is left in front of the second mark, and after it is removed, is what preceded the first
opening of the author's text. -/
lemma Remarking.leaves (hlimit : limit.admits 0 = true) (hbody : find? (body.getD "").toList = none)
    {first second last : String} (h : Remarking limit body n m first second last) :
    limit.admits n = true ∧ limit.admits m = true ∧
      StandsBefore (unopened (body.getD "").toList) second ∧
      SameText last.toList (unopened (body.getD "").toList) := by
  obtain ⟨hn, hfirst⟩ := settled_marked hlimit hbody h.marked
  obtain ⟨hm, text, hsecond, hsame⟩ := hfirst.set hlimit h.remarked
  obtain ⟨-, text', hlast, hsame'⟩ := (hfirst.next hlimit h.remarked).set hlimit h.cleared
  have hm' : limit.admits m = true := by simpa using hm
  obtain ⟨place, hplace, hbefore⟩ := standsBefore_of_carries hsecond hm'
  have hlast' : last.toList = text' := hlast.shape
  exact ⟨hn, hm', ⟨place, hplace, hbefore.trans hsame⟩, hlast' ▸ hsame'⟩

/-- A body without a comment that is marked, marked again and cleared keeps its text in front of the second
mark and as a whole at the end, up to line feeds, exactly when both numbers are within the limit and
nothing in the text opens a comment. Otherwise the text is lost from its first opening on. A limit admits
zero when there is no limit or it is at least one digit. -/
theorem text_kept_iff (hlimit : limit.admits 0 = true) (body : Option String)
    (hbody : find? (body.getD "").toList = none) (n m : Int) :
    ((∃ first second last, Remarking limit body n m first second last ∧
        StandsBefore (body.getD "").toList second ∧ SameText last.toList (body.getD "").toList) ↔
      limit.admits n = true ∧ limit.admits m = true ∧ ¬opening <:+: (body.getD "").toList) ∧
    ∀ first second last, Remarking limit body n m first second last →
      StandsBefore (unopened (body.getD "").toList) second ∧
        SameText last.toList (unopened (body.getD "").toList) := by
  refine ⟨⟨?_, ?_⟩, fun _ _ _ h => (h.leaves hlimit hbody).2.2⟩
  · rintro ⟨first, second, last, h, -, hkept⟩
    obtain ⟨hn, hm, -, hleft⟩ := h.leaves hlimit hbody
    exact ⟨hn, hm, sameText_unopened_iff.mp (hleft.symm.trans hkept)⟩
  · rintro ⟨hn, hm, hclean⟩
    obtain ⟨first, second, last, h⟩ := exists_remarking hlimit hn hm hclean
    obtain ⟨-, -, hsecond, hlast⟩ := h.leaves hlimit hbody
    rw [unopened_of_not_isInfix hclean] at hsecond hlast
    exact ⟨first, second, last, h, hsecond, hlast⟩

theorem text_kept_steps :
    ∃ first second last, Remarking .standard (some "Steps:\n1. open\n\n") 5 (-6) first second last ∧
      StandsBefore "Steps:\n1. open\n\n".toList second ∧
      SameText last.toList "Steps:\n1. open\n\n".toList := by
  have hnone : find? "Steps:\n1. open\n\n".toList = none :=
    Metadata.find?_eq_none (by decide +kernel)
  have hlimit : DigitLimit.admits .standard 0 = true := by decide
  have hkept := text_kept_iff hlimit (some "Steps:\n1. open\n\n") hnone 5 (-6)
  exact hkept.1.mpr ⟨by decide, by decide, by decide +kernel⟩

/-- A report that quotes how a comment begins. -/
def quotingBody : String := "It printed <!-- ladybug = \x7b and stopped"

/-- The rest of the report is gone after the second mark. -/
theorem text_lost_quoting :
    (find? quotingBody.toList).isNone ∧
      ∃ first second last, Remarking .standard (some quotingBody) 5 6 first second last ∧
        second = "It printed \n\n<!-- ladybug = \x7b\"duplicateOf\": 6\x7d -->" ∧ last = "It printed " ∧
        ¬StandsBefore quotingBody.toList second ∧ ¬SameText last.toList quotingBody.toList := by
  have hfind : (find? quotingBody.toList).isNone := by decide +kernel
  have hcourse : Remarking .standard (some quotingBody) 5 6
      (quotingBody ++ "\n\n<!-- ladybug = \x7b\"duplicateOf\": 5\x7d -->")
      "It printed \n\n<!-- ladybug = \x7b\"duplicateOf\": 6\x7d -->" "It printed " :=
    ⟨by decide +kernel, by decide +kernel, by decide +kernel⟩
  refine ⟨hfind, _, _, _, hcourse, rfl, rfl, ?_, ?_⟩
  · rintro ⟨place, hplace, hsame⟩
    have hbefore : (find? "It printed \n\n<!-- ladybug = \x7b\"duplicateOf\": 6\x7d -->".toList).map
        Metadata.Place.before = some "It printed \n\n".toList := by decide +kernel
    rw [hplace] at hbefore
    rw [SameText, Option.some.inj hbefore] at hsame
    exact absurd hsame (by decide +kernel)
  · rw [SameText]
    decide +kernel

end Triage.Duplicate
